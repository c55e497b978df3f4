import Gotun.Admin.Auth
import Gotun.Lib.Entries

/-! The limit of failed logins over time. Logins are handled one after the other, and the timer of
an address goes off on time. -/

namespace Gotun.Admin

open Gotun.Lib

/-- One hour. -/
def resetDuration : Int := 3600 * 1000000000

inductive Outcome where
  | failed
  | succeeded
  | neither
  deriving DecidableEq, Repr

/-- A login with the outcome of its check, if it comes to that. -/
structure Attempt where
  ip : String
  outcome : Outcome
  time : Int
  deriving DecidableEq, Repr

/-- `deadlines` are the times at which the timers go off. For the proofs, `failures` are the times
of all failed logins of an address and `counted` those since its last success or unblocking, the
latest first. -/
structure Watch where
  manager : AuthManager
  deadlines : Table String Int
  now : Int
  failures : String → List Int
  counted : String → List Int

namespace Watch

variable (cfg : AuthConfig)

def blocked (s : Watch) (ip : String) : Bool := s.manager.isBlocked cfg ip

def due (s : Watch) (t : Int) (ip : String) : Bool := (s.deadlines ip).any (· ≤ t)

/-- The timers go off until `t`. -/
def fire (s : Watch) (t : Int) : Watch :=
  { s with
    manager := { s.manager with
      failedAttempts := fun ip => if s.due t ip then none else s.manager.failedAttempts ip }
    deadlines := fun ip => if s.due t ip then none else s.deadlines ip
    counted := fun ip => if s.due t ip then [] else s.counted ip
    now := t }

/-- What `isBlocked` leaves behind. -/
def look (s : Watch) (ip : String) : Watch :=
  { s with manager := if 0 < cfg.maxFailedAttempts then s.manager.loadAttempts ip else s.manager }

/-- An old timer is stopped when a new one is started. -/
def recordAuthFailure (s : Watch) (ip : String) : Watch :=
  if cfg.maxFailedAttempts ≤ 0 then s
  else
    let attempts := s.manager.attempts ip + 1
    { s with
      manager := (s.manager.loadAttempts ip).storeAttempts cfg ip attempts
      deadlines := if cfg.maxFailedAttempts ≤ attempts then
        s.deadlines.put ip (s.now + resetDuration) else s.deadlines }

def noteFailure (s : Watch) (ip : String) : Watch :=
  { s with
    failures := Function.update s.failures ip (s.now :: s.failures ip)
    counted := Function.update s.counted ip (s.now :: s.counted ip) }

def onAuthSuccess (s : Watch) (ip : String) : Watch :=
  { s with
    manager := s.manager.resetAttempts ip
    deadlines := s.deadlines.drop ip
    counted := Function.update s.counted ip [] }

/-- The login at its time: a blocked address is refused, and nothing is checked. -/
def login (s : Watch) (e : Attempt) : Watch :=
  if s.blocked cfg e.ip then s.look cfg e.ip
  else match e.outcome with
    | .failed => ((s.look cfg e.ip).recordAuthFailure cfg e.ip).noteFailure e.ip
    | .succeeded => (s.look cfg e.ip).onAuthSuccess e.ip
    | .neither => s.look cfg e.ip

def step (s : Watch) (e : Attempt) : Option Watch :=
  if s.now ≤ e.time then some ((s.fire e.time).login cfg e) else none

def empty : Watch := ⟨.blank, fun _ => none, 0, fun _ => [], fun _ => []⟩

def system : System Watch Attempt where
  start s := s = empty
  step := step cfg

/-- An address becomes blocked by a failed login of its own that is one of as many in an hour as the
limit says. -/
def HourlyLimit (s : Watch) (e : Attempt) : Prop :=
  ∀ s' ip, s.step cfg e = some s' → (s.fire e.time).blocked cfg ip = false → s'.blocked cfg ip = true →
    e.ip = ip ∧ e.outcome = .failed ∧
      cfg.maxFailedAttempts ≤ (s'.failures ip).countP (e.time - resetDuration ≤ ·)

/-- A blocked address stays blocked for an hour after its last failure, and no longer. -/
def UnblockedInTime (s : Watch) : Prop :=
  ∀ ip, s.blocked cfg ip = true → ∃ last, (s.failures ip).head? = some last ∧
    ∀ t, s.now ≤ t → ((s.fire t).blocked cfg ip = true ↔ t < last + resetDuration)

/-- A failure that makes as many as the limit since the last success or unblocking comes within an
hour of the first of them. -/
def Dense (s : Watch) (e : Attempt) : Prop :=
  e.outcome = .failed → (s.fire e.time).blocked cfg e.ip = false →
    cfg.maxFailedAttempts ≤ ((s.fire e.time).counted e.ip).length + 1 →
    ∀ u ∈ (s.fire e.time).counted e.ip, e.time - resetDuration ≤ u

/-- The timer runs once the limit is reached, for an hour from the last failure. -/
def deadlineOf (counted : List Int) : Option Int :=
  if cfg.maxFailedAttempts ≤ counted.length then counted.head?.map (· + resetDuration) else none

structure Sound (s : Watch) : Prop where
  counter : ∀ ip, s.manager.attempts ip = (s.counted ip).length
  part : ∀ ip, s.counted ip <+: s.failures ip
  sorted : ∀ ip, (s.failures ip).Pairwise (· ≥ ·)
  past : ∀ ip, ∀ u ∈ s.failures ip, u ≤ s.now
  timer : ∀ ip, s.deadlines ip = deadlineOf cfg (s.counted ip)

variable {cfg : AuthConfig} {s s' : Watch} {e : Attempt}

theorem fire_attempts (s : Watch) (t : Int) (ip : String) :
    (s.fire t).manager.attempts ip = if s.due t ip then 0 else s.manager.attempts ip := by
  unfold AuthManager.attempts fire
  dsimp only
  split_ifs <;> rfl

theorem deadlineOf_nil (cfg : AuthConfig) : deadlineOf cfg [] = none := by
  unfold deadlineOf
  split_ifs <;> rfl

namespace Sound

theorem empty : Sound cfg empty where
  counter _ := rfl
  part _ := List.nil_prefix
  sorted _ := List.Pairwise.nil
  past _ _ member := nomatch member
  timer _ := (deadlineOf_nil cfg).symm

theorem blocked_iff (sound : Sound cfg s) (positive : 0 < cfg.maxFailedAttempts) (ip : String) :
    s.blocked cfg ip = true ↔ cfg.maxFailedAttempts ≤ (s.counted ip).length := by
  rw [blocked, AuthManager.isBlocked, decide_eq_true_iff, sound.counter]
  exact and_iff_right positive

theorem fire (sound : Sound cfg s) {t : Int} (later : s.now ≤ t) : Sound cfg (s.fire t) where
  counter ip := by
    rw [fire_attempts, sound.counter]
    unfold Watch.fire
    dsimp only
    split_ifs <;> rfl
  part ip := by
    unfold Watch.fire
    dsimp only
    split_ifs
    · exact List.nil_prefix
    · exact sound.part ip
  sorted := sound.sorted
  past ip u member := Int.le_trans (sound.past ip u member) later
  timer ip := by
    unfold Watch.fire
    dsimp only
    split_ifs
    · exact (deadlineOf_nil cfg).symm
    · exact sound.timer ip

theorem congr (sound : Sound cfg s) {manager : AuthManager}
    (same : manager.attempts = s.manager.attempts) :
    Sound cfg { s with manager } :=
  ⟨fun ip => (congrFun same ip).trans (sound.counter ip), sound.part, sound.sorted,
    sound.past, sound.timer⟩

theorem look (sound : Sound cfg s) (ip : String) : Sound cfg (s.look cfg ip) := by
  refine sound.congr ?_
  split_ifs
  · exact s.manager.loadAttempts_attempts ip
  · rfl

/-- What is true of one address. -/
structure At (cfg : AuthConfig) (s : Watch) (ip : String) : Prop where
  counter : s.manager.attempts ip = (s.counted ip).length
  part : s.counted ip <+: s.failures ip
  sorted : (s.failures ip).Pairwise (· ≥ ·)
  past : ∀ u ∈ s.failures ip, u ≤ s.now
  timer : s.deadlines ip = deadlineOf cfg (s.counted ip)

/-- The other addresses are left alone. -/
theorem change (sound : Sound cfg s) (ip : String) (now : s'.now = s.now)
    (others : ∀ other, other ≠ ip → s'.manager.attempts other = s.manager.attempts other ∧
      s'.deadlines other = s.deadlines other ∧ s'.failures other = s.failures other ∧
      s'.counted other = s.counted other)
    (own : At cfg s' ip) : Sound cfg s' := by
  have each (other : String) : At cfg s' other := by
    by_cases same : other = ip
    · rw [same]
      exact own
    · obtain ⟨attempts, deadlines, failures, counted⟩ := others other same
      constructor
      · rw [attempts, counted, sound.counter]
      · rw [counted, failures]
        exact sound.part other
      · rw [failures]
        exact sound.sorted other
      · rw [failures, now]
        exact sound.past other
      · rw [deadlines, counted, sound.timer]
  exact ⟨fun ip => (each ip).counter, fun ip => (each ip).part, fun ip => (each ip).sorted,
    fun ip => (each ip).past, fun ip => (each ip).timer⟩

theorem failure (sound : Sound cfg s) (positive : 0 < cfg.maxFailedAttempts) (ip : String) :
    Sound cfg ((s.recordAuthFailure cfg ip).noteFailure ip) := by
  have recorded : (s.recordAuthFailure cfg ip).noteFailure ip =
      { s with
        manager := (s.manager.loadAttempts ip).storeAttempts cfg ip ((s.counted ip).length + 1)
        deadlines := if cfg.maxFailedAttempts ≤ (s.counted ip).length + 1 then
          s.deadlines.put ip (s.now + resetDuration) else s.deadlines
        failures := Function.update s.failures ip (s.now :: s.failures ip)
        counted := Function.update s.counted ip (s.now :: s.counted ip) } := by
    rw [recordAuthFailure, if_neg (Int.not_le.mpr positive), sound.counter]
    rfl
  rw [recorded]
  refine sound.change ip rfl ?_ ?_
  · intro other ne
    dsimp only
    rw [AuthManager.storeAttempts_attempts, AuthManager.loadAttempts_attempts]
    refine ⟨Function.update_of_ne ne _ _, ?_, Function.update_of_ne ne _ _, Function.update_of_ne ne _ _⟩
    split_ifs
    · exact Function.update_of_ne ne _ _
    · rfl
  · constructor
    · dsimp only
      rw [AuthManager.storeAttempts_attempts, Function.update_self, Function.update_self,
        List.length_cons, Int.natCast_succ]
    · simp only [Function.update_self]
      exact List.cons_prefix_cons.mpr ⟨rfl, sound.part ip⟩
    · simp only [Function.update_self]
      exact List.Pairwise.cons (sound.past ip) (sound.sorted ip)
    · simp only [Function.update_self]
      exact List.forall_mem_cons.mpr ⟨Int.le_refl _, sound.past ip⟩
    · simp only [Function.update_self, deadlineOf, List.length_cons, Int.natCast_succ,
        List.head?_cons, Option.map_some]
      split_ifs with full
      · exact Function.update_self ..
      · rw [sound.timer ip, deadlineOf, if_neg (by omega)]

theorem onAuthSuccess (sound : Sound cfg s) (ip : String) : Sound cfg (s.onAuthSuccess ip) := by
  refine sound.change ip rfl ?_ ?_
  · intro other ne
    refine ⟨?_, Function.update_of_ne ne _ _, rfl, Function.update_of_ne ne _ _⟩
    rw [Watch.onAuthSuccess, AuthManager.resetAttempts_attempts]
    exact Function.update_of_ne ne _ _
  · constructor
    · simp only [Watch.onAuthSuccess, AuthManager.resetAttempts_attempts, Function.update_self]
      rfl
    · simp only [Watch.onAuthSuccess, Function.update_self]
      exact List.nil_prefix
    · exact sound.sorted ip
    · exact sound.past ip
    · simp only [Watch.onAuthSuccess, Table.drop, Function.update_self, deadlineOf_nil]

theorem login (sound : Sound cfg s) (positive : 0 < cfg.maxFailedAttempts)
    (e : Attempt) : Sound cfg (s.login cfg e) := by
  have looked := sound.look e.ip
  unfold Watch.login
  split_ifs
  · exact looked
  · cases e.outcome with
    | failed => exact looked.failure positive e.ip
    | succeeded => exact looked.onAuthSuccess e.ip
    | neither => exact looked

theorem step (sound : Sound cfg s) (positive : 0 < cfg.maxFailedAttempts)
    (next : s.step cfg e = some s') : Sound cfg s' := by
  unfold Watch.step at next
  split_ifs at next with later
  rw [← Option.some.inj next]
  exact (sound.fire later).login positive e

end Sound

theorem sound_of_run {allowed : Watch → Attempt → Prop} {events : List Attempt}
    (positive : 0 < cfg.maxFailedAttempts)
    (run : (system cfg).Run allowed events s) : Sound cfg s := by
  apply run.invariant (Sound cfg)
  · rintro _ rfl
    exact Sound.empty
  · intro _ _ _ sound _ next
    exact sound.step positive next

/-! A step that blocks an address. -/

theorem recordAuthFailure_frame (cfg : AuthConfig) (s : Watch) (ip : String) :
    (s.recordAuthFailure cfg ip).failures = s.failures ∧
    (s.recordAuthFailure cfg ip).counted = s.counted ∧ (s.recordAuthFailure cfg ip).now = s.now := by
  unfold recordAuthFailure
  split_ifs <;> exact ⟨rfl, rfl, rfl⟩

theorem login_failed (failed : e.outcome = .failed) (free : s.blocked cfg e.ip = false) :
    (s.login cfg e).failures e.ip = s.now :: s.failures e.ip ∧
      (s.login cfg e).counted e.ip = s.now :: s.counted e.ip := by
  obtain ⟨failures, counted, now⟩ := recordAuthFailure_frame cfg (s.look cfg e.ip) e.ip
  unfold login
  rw [if_neg (by simp [free]), failed]
  simp only [noteFailure, Function.update_self, failures, counted, now]
  exact ⟨rfl, rfl⟩

/-- Only a failed login adds to what is counted, and only for its own address. -/
theorem login_counted (ip : String)
    (grown : (s.counted ip).length < ((s.login cfg e).counted ip).length) :
    e.ip = ip ∧ e.outcome = .failed ∧ s.blocked cfg e.ip = false := by
  unfold login at grown
  split_ifs at grown with full
  · exact absurd grown (Nat.lt_irrefl _)
  · have free : s.blocked cfg e.ip = false := by simpa using full
    cases outcome : e.outcome with
    | failed =>
      refine ⟨by_contra fun other => ?_, rfl, free⟩
      have kept : (((s.look cfg e.ip).recordAuthFailure cfg e.ip).noteFailure e.ip).counted ip =
          s.counted ip := by
        simp only [noteFailure, Function.update_of_ne (Ne.symm other)]
        exact congrFun (recordAuthFailure_frame cfg (s.look cfg e.ip) e.ip).2.1 ip
      rw [outcome] at grown
      simp only [kept, Nat.lt_irrefl] at grown
    | succeeded =>
      rw [outcome] at grown
      by_cases same : e.ip = ip
      · subst same
        simp [onAuthSuccess] at grown
      · simp only [onAuthSuccess, Function.update_of_ne (Ne.symm same)] at grown
        exact absurd grown (Nat.lt_irrefl _)
    | neither =>
      rw [outcome] at grown
      exact absurd grown (Nat.lt_irrefl _)

theorem hourly_iff (sound : Sound cfg s) (positive : 0 < cfg.maxFailedAttempts)
    (next : s.step cfg e = some s') :
    HourlyLimit cfg s e ↔ Dense cfg s e := by
  have after := sound.step positive next
  unfold step at next
  split_ifs at next with later
  obtain rfl := Option.some.inj next
  have fired := sound.fire later
  have result : s.step cfg e = some ((s.fire e.time).login cfg e) := if_pos later
  constructor
  · intro hourly failed free enough
    obtain ⟨failures, counted⟩ := login_failed failed free
    have few : ((s.fire e.time).counted e.ip).length < cfg.maxFailedAttempts := by
      by_contra many
      rw [(fired.blocked_iff positive e.ip).mpr (Int.not_lt.mp many)] at free
      cases free
    have full : ((s.fire e.time).login cfg e).blocked cfg e.ip = true := by
      rw [after.blocked_iff positive, counted, List.length_cons]
      push_cast
      exact enough
    obtain ⟨_, _, within⟩ := hourly _ e.ip result free full
    have front : ((s.fire e.time).login cfg e).counted e.ip <+:
        ((s.fire e.time).login cfg e).failures e.ip :=
      after.part e.ip
    have recent := (prefix_countP_iff (after.sorted e.ip) front (e.time - resetDuration)).mpr (by
      rw [counted, List.length_cons]
      omega)
    rw [counted] at recent
    exact fun u member => recent u (List.mem_cons_of_mem _ member)
  · intro dense s' ip next free full
    obtain rfl := Option.some.inj (result.symm.trans next)
    have grown := (after.blocked_iff positive ip).mp full
    have few : ((s.fire e.time).counted ip).length < cfg.maxFailedAttempts := by
      by_contra many
      rw [(fired.blocked_iff positive ip).mpr (Int.not_lt.mp many)] at free
      cases free
    have longer : ((s.fire e.time).counted ip).length <
      (((s.fire e.time).login cfg e).counted ip).length := by
      omega
    obtain ⟨rfl, failed, _⟩ := login_counted ip longer
    obtain ⟨_, counted⟩ := login_failed failed free
    have enough : cfg.maxFailedAttempts ≤ ((s.fire e.time).counted e.ip).length + 1 := by
      rw [counted, List.length_cons] at grown
      push_cast at grown
      exact grown
    refine ⟨rfl, failed, ?_⟩
    have recent := (prefix_countP_iff (after.sorted e.ip) (after.part e.ip)
      (e.time - resetDuration)).mp fun u member => by
      rw [counted] at member
      rcases List.mem_cons.mp member with rfl | earlier
      · exact Int.sub_le_self _ (by decide)
      · exact dense failed free enough u earlier
    omega

/-! Time passes. -/

theorem unblocked_in_time (sound : Sound cfg s)
    (positive : 0 < cfg.maxFailedAttempts) : UnblockedInTime cfg s := by
  intro ip full
  have enough := (sound.blocked_iff positive ip).mp full
  cases counted : s.counted ip with
  | nil =>
    rw [counted] at enough
    simp only [List.length_nil] at enough
    omega
  | cons last rest =>
    obtain ⟨more, split⟩ := sound.part ip
    rw [counted] at split
    refine ⟨last, by rw [← split]; rfl, fun t later => ?_⟩
    have deadline : s.deadlines ip = some (last + resetDuration) := by
      rw [sound.timer, deadlineOf, if_pos enough, counted]
      rfl
    rw [(sound.fire later).blocked_iff positive]
    have left : (s.fire t).counted ip = if last + resetDuration ≤ t then [] else s.counted ip := by
      simp only [Watch.fire, due, deadline, Option.any_some, decide_eq_true_eq]
    rw [left]
    split_ifs with gone
    · simp only [List.length_nil]
      omega
    · omega

/-- The limit counts the failures of an hour exactly along the runs without a slow row of failures;
unblocking is always in time. -/
theorem hourly_run_iff (positive : 0 < cfg.maxFailedAttempts) (events : List Attempt) (s : Watch) :
    ((system cfg).Run (HourlyLimit cfg) events s ∧ UnblockedInTime cfg s) ↔
      (system cfg).Run (Dense cfg) events s := by
  constructor
  · rintro ⟨run, unblocked⟩
    clear unblocked
    induction run with
    | start begins => exact .start begins
    | step before ok next dense =>
      exact dense.step ((hourly_iff (sound_of_run positive before) positive next).mp ok) next
  · intro run
    refine ⟨?_, unblocked_in_time (sound_of_run positive run) positive⟩
    induction run with
    | start begins => exact .start begins
    | step before ok next hourly =>
      exact hourly.step ((hourly_iff (sound_of_run positive before) positive next).mpr ok) next

/-- Two failures may be made in an hour. -/
def twoAnHour : AuthConfig := ⟨"admin", "secret", 2⟩

def minute : Int := 60 * 1000000000

instance (cfg : AuthConfig) (s : Watch) (e : Attempt) : Decidable (Dense cfg s e) :=
  inferInstanceAs (Decidable (e.outcome = .failed → (s.fire e.time).blocked cfg e.ip = false →
    cfg.maxFailedAttempts ≤ ((s.fire e.time).counted e.ip).length + 1 →
    ∀ u ∈ (s.fire e.time).counted e.ip, e.time - resetDuration ≤ u))

/-- Two failures within ten minutes block the address. -/
def quickFailures : List Attempt :=
  [⟨"1.2.3.4", .failed, 0⟩, ⟨"1.2.3.4", .failed, 10 * minute⟩, ⟨"1.2.3.4", .failed, 20 * minute⟩]

theorem quickFailures_blocked : ∃ s, (system twoAnHour).Run (HourlyLimit twoAnHour) quickFailures s ∧
    UnblockedInTime twoAnHour s ∧ s.blocked twoAnHour "1.2.3.4" = true := by
  have played :
    ((system twoAnHour).play (fun s e => decide (Dense twoAnHour s e)) quickFailures empty).any
      (fun s => s.blocked twoAnHour "1.2.3.4") = true := by
    decide +kernel
  obtain ⟨s, run, full⟩ := System.Run.of_play rfl played
  obtain ⟨hourly, unblocked⟩ :=
    (hourly_run_iff (by decide) quickFailures s).mpr (run.mono fun _ _ ok => of_decide_eq_true ok)
  exact ⟨s, hourly, unblocked, full⟩

/-- Two failures a hundred minutes apart block the address all the same. -/
theorem slow_failures_blocked :
    ∃ s e, (system twoAnHour).Run (fun _ _ => True) [⟨"1.2.3.4", .failed, 0⟩] s ∧
    e = ⟨"1.2.3.4", .failed, 100 * minute⟩ ∧ ¬ HourlyLimit twoAnHour s e := by
  have first : (system twoAnHour).step empty ⟨"1.2.3.4", .failed, 0⟩ =
      some ((empty.fire 0).login twoAnHour ⟨"1.2.3.4", .failed, 0⟩) := rfl
  refine ⟨_, _, .step (.start rfl) trivial first, rfl, fun hourly => ?_⟩
  obtain ⟨_, _, within⟩ := hourly _ "1.2.3.4" rfl (by decide +kernel) (by decide +kernel)
  revert within
  decide +kernel

end Watch
end Gotun.Admin
