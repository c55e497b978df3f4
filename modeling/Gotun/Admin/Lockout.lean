import Gotun.Admin.Auth
import Gotun.Lib.Entries

/-! The limit of failed logins from one address. The counter is read when a request comes in, and
is read and written again after its check has failed, with other requests in between. -/

namespace Gotun.Admin

open Gotun.Lib

namespace Login

/-- The request was let through, and its check can still fail. -/
def isPending (lib : Library) (cfg : AuthConfig) (ip : String) : Login → Bool
  | .passed ip' req => ip' = ip && Site.isChecked req
  | .proving ip' req _ => ip' = ip && !req.proves lib cfg
  | _ => false

/-- The check has failed and the counter does not show it. -/
def isUnstored (ip : String) : Login → Bool
  | .failing ip' | .loaded ip' _ => ip' = ip
  | _ => false

def isLoaded (ip : String) : Login → Bool
  | .loaded ip' _ => ip' = ip
  | _ => false

end Login

namespace Site

variable {lib : Library} {cfg : AuthConfig} {s s' : Site} {e : Event}

def pending (lib : Library) (cfg : AuthConfig) (s : Site) (ip : String) : Nat :=
  s.logins.countP (Login.isPending lib cfg ip)

def unstored (s : Site) (ip : String) : Nat := s.logins.countP (Login.isUnstored ip)

/-- A request that will be checked is let through only if there is room for it besides the requests
of its address whose checks can still fail, and a counter is not read between the read and the write
of another request. -/
def inTurn (lib : Library) (cfg : AuthConfig) (s : Site) : Event → Bool
  | .isBlocked login => match s.logins[login]? with
    | some (.arrived ip req) => isChecked req = false ∨ s.manager.isBlocked cfg ip ∨
      s.manager.attempts ip + s.pending lib cfg ip + s.unstored ip < cfg.maxFailedAttempts
    | _ => true
  | .loadAttempts login => match s.logins[login]? with
    | some (.failing ip) => s.logins.all fun l => !l.isLoaded ip
    | _ => true
  | _ => true

structure Limited (lib : Library) (cfg : AuthConfig) (s : Site) : Prop where
  nonneg : ∀ ip, 0 ≤ s.manager.attempts ip
  accounted : ∀ ip, (s.failures ip : Int) ≤ s.manager.attempts ip + s.unstored ip
  room : ∀ ip, (s.failures ip : Int) + s.pending lib cfg ip ≤ cfg.maxFailedAttempts
  single : ∀ ip, s.logins.countP (Login.isLoaded ip) ≤ 1
  ahead : ∀ ip v, .loaded ip v ∈ s.logins → s.manager.attempts ip ≤ v

theorem Limited.congr (limited : Limited lib cfg s) (attempts : s'.manager.attempts = s.manager.attempts)
    (failures : s'.failures = s.failures) (logins : s'.logins = s.logins) : Limited lib cfg s' := by
  obtain ⟨nonneg, accounted, room, single, ahead⟩ := limited
  refine ⟨by rwa [attempts], fun ip => ?_, fun ip => ?_, by rwa [logins], by rwa [logins, attempts]⟩
  · rw [failures, attempts, unstored, logins]
    exact accounted ip
  · rw [failures, pending, logins]
    exact room ip

/-- A login moves on without a failure. -/
theorem Limited.moveOn (limited : Limited lib cfg s) {login : Nat} {l k : Login}
    (at_ : s.logins[login]? = some l)
    (pending : ∀ ip, k.isPending lib cfg ip = true → l.isPending lib cfg ip = true)
    (before : ∀ ip, l.isUnstored ip = false ∧ l.isLoaded ip = false)
    (after : ∀ ip, k.isUnstored ip = false ∧ k.isLoaded ip = false) :
    Limited lib cfg (s.setLogin login k) := by
  refine ⟨limited.nonneg, fun ip => ?_, fun ip => ?_, fun ip => ?_, fun ip v member => ?_⟩
  · have kept : (s.setLogin login k).unstored ip = s.unstored ip :=
      countP_set_same at_ ((after ip).1.trans (before ip).1.symm)
    rw [kept]
    exact limited.accounted ip
  · have moved := countP_set_add (p := Login.isPending lib cfg ip) (b := k) at_
    have fewer : (s.logins.set login k).countP (Login.isPending lib cfg ip) ≤
        s.logins.countP (Login.isPending lib cfg ip) := by
      have less := pending ip
      cases was : l.isPending lib cfg ip <;> cases is : k.isPending lib cfg ip <;> simp_all
      omega
    exact Int.le_trans (Int.add_le_add_left (Int.ofNat_le.mpr fewer) _) (limited.room ip)
  · have kept : (s.logins.set login k).countP (Login.isLoaded ip) =
        s.logins.countP (Login.isLoaded ip) :=
      countP_set_same at_ ((after ip).2.trans (before ip).2.symm)
    exact Nat.le_trans (Nat.le_of_eq kept) (limited.single ip)
  · rcases List.mem_or_eq_of_mem_set member with old | new
    · exact limited.ahead ip v old
    · have other := (after ip).2
      rw [← new, Login.isLoaded] at other
      exact absurd rfl (of_decide_eq_false other)

/-- A check fails: the login is pending no more, and its failure is not in the counter. -/
theorem Limited.fail (limited : Limited lib cfg s) {login : Nat} {l : Login} {ip : String}
    (at_ : s.logins[login]? = some l) (own : ∀ ip', l.isPending lib cfg ip' = decide (ip = ip'))
    (before : ∀ ip', l.isUnstored ip' = false ∧ l.isLoaded ip' = false) :
    Limited lib cfg (s.fail login ip) := by
  have updated (ip' : String) : (s.fail login ip).failures ip' = s.failures ip' +
      if ip = ip' then 1 else 0 := by
    by_cases same : ip = ip'
    · simp only [Site.fail, same, Function.update_self, if_true]
    · simp only [Site.fail, Function.update_of_ne (Ne.symm same), same, if_false, Nat.add_zero]
  refine ⟨limited.nonneg, fun ip' => ?_, fun ip' => ?_, fun ip' => ?_, fun ip' v member => ?_⟩
  · have moved := countP_set_add (p := Login.isUnstored ip') (b := .failing ip) at_
    have accounted := limited.accounted ip'
    rw [(before ip').1] at moved
    simp only [Login.isUnstored, Bool.false_eq_true, if_false, decide_eq_true_eq, Nat.add_zero] at moved
    change _ ≤ s.manager.attempts ip' +
      ((s.logins.set login (.failing ip)).countP (Login.isUnstored ip') : Nat)
    rw [updated, moved]
    rw [unstored] at accounted
    push_cast
    omega
  · have moved := countP_set_add (p := Login.isPending lib cfg ip') (b := .failing ip) at_
    have room := limited.room ip'
    rw [own ip'] at moved
    simp only [Login.isPending, Bool.false_eq_true, if_false, decide_eq_true_eq, Nat.add_zero] at moved
    change _ +
      (((s.logins.set login (.failing ip)).countP (Login.isPending lib cfg ip') : Nat) : Int) ≤ _
    rw [updated]
    rw [pending, ← moved] at room
    push_cast at room ⊢
    omega
  · have kept : (s.logins.set login (.failing ip)).countP (Login.isLoaded ip') =
        s.logins.countP (Login.isLoaded ip') :=
      countP_set_same at_ (before ip').2.symm
    exact Nat.le_trans (Nat.le_of_eq kept) (limited.single ip')
  · rcases List.mem_or_eq_of_mem_set member with old | new
    · exact limited.ahead ip' v old
    · cases new

/-- A request is let through while there is room. -/
theorem Limited.pass (limited : Limited lib cfg s) {login : Nat} {ip : String}
    {req : Option authLoginRequest} (at_ : s.logins[login]? = some (.arrived ip req))
    (free : isChecked req = true → s.manager.attempts ip + s.pending lib cfg ip + s.unstored ip <
      cfg.maxFailedAttempts) :
    Limited lib cfg (s.setLogin login (.passed ip req)) := by
  refine ⟨limited.nonneg, fun ip' => ?_, fun ip' => ?_, fun ip' => ?_, fun ip' v member => ?_⟩
  · have kept : (s.setLogin login (.passed ip req)).unstored ip' = s.unstored ip' :=
      countP_set_same at_ rfl
    rw [kept]
    exact limited.accounted ip'
  · have moved := countP_set_add (p := Login.isPending lib cfg ip') (b := .passed ip req) at_
    have room := limited.room ip'
    have accounted := limited.accounted ip'
    rw [show Login.isPending lib cfg ip' (.arrived ip req) = false from rfl,
      if_neg Bool.false_ne_true, Nat.add_zero] at moved
    change (s.failures ip' : Int) +
      (((s.logins.set login (.passed ip req)).countP (Login.isPending lib cfg ip') : Nat) : Int) ≤ _
    rw [moved]
    by_cases counts : Login.isPending lib cfg ip' (.passed ip req) = true
    · obtain ⟨same, checked⟩ := Bool.and_eq_true_iff.mp counts
      obtain rfl : ip = ip' := of_decide_eq_true same
      rw [if_pos counts]
      have free := free checked
      rw [pending] at free
      push_cast
      omega
    · rw [if_neg counts]
      exact room
  · have kept : (s.logins.set login (.passed ip req)).countP (Login.isLoaded ip') =
        s.logins.countP (Login.isLoaded ip') :=
      countP_set_same at_ rfl
    exact Nat.le_trans (Nat.le_of_eq kept) (limited.single ip')
  · rcases List.mem_or_eq_of_mem_set member with old | new
    · exact limited.ahead ip' v old
    · cases new

/-- The counter is read while no other request is about to write it. -/
theorem Limited.load (limited : Limited lib cfg s) {login : Nat} {ip : String}
    (at_ : s.logins[login]? = some (.failing ip)) (alone : ∀ l ∈ s.logins, l.isLoaded ip = false) :
    Limited lib cfg (s.setLogin login (.loaded ip (s.manager.attempts ip))) := by
  refine ⟨limited.nonneg, fun ip' => ?_, fun ip' => ?_, fun ip' => ?_, fun ip' v member => ?_⟩
  · have kept :
        (s.setLogin login (.loaded ip (s.manager.attempts ip))).unstored ip' = s.unstored ip' :=
      countP_set_same at_ rfl
    rw [kept]
    exact limited.accounted ip'
  · have kept : (s.setLogin login (.loaded ip (s.manager.attempts ip))).pending lib cfg ip' =
        s.pending lib cfg ip' :=
      countP_set_same at_ rfl
    rw [kept]
    exact limited.room ip'
  · have moved := countP_set_add (p := Login.isLoaded ip') (b := .loaded ip (s.manager.attempts ip)) at_
    have single := limited.single ip'
    simp only [Login.isLoaded, Bool.false_eq_true, if_false, decide_eq_true_eq, Nat.add_zero] at moved
    change (s.logins.set login _).countP (Login.isLoaded ip') ≤ 1
    rw [moved]
    by_cases same : ip = ip'
    · subst same
      have none_loaded : s.logins.countP (Login.isLoaded ip) = 0 :=
        List.countP_eq_zero.mpr fun l member => by rw [alone l member]; exact Bool.false_ne_true
      rw [if_pos rfl]
      omega
    · rw [if_neg same]
      exact single
  · rcases List.mem_or_eq_of_mem_set member with old | new
    · exact limited.ahead ip' v old
    · cases new
      exact Int.le_refl _

/-- The counter is written: it shows the failure now, and nobody else has read the old value. -/
theorem Limited.store (limited : Limited lib cfg s) {login : Nat} {ip : String} {v : Int}
    (at_ : s.logins[login]? = some (.loaded ip v)) :
    Limited lib cfg
      { s.setLogin login .ended with manager := s.manager.storeAttempts cfg ip (v + 1) } := by
  have member : Login.loaded ip v ∈ s.logins := List.mem_of_getElem? at_
  have ahead := limited.ahead ip v member
  have updated (ip' : String) :
      (s.manager.storeAttempts cfg ip (v + 1)).attempts ip' =
        if ip' = ip then v + 1 else s.manager.attempts ip' := by
    rw [AuthManager.storeAttempts_attempts, Function.update_apply]
  have loaded (ip' : String) := countP_set_add (p := Login.isLoaded ip') (b := .ended) at_
  simp only [Login.isLoaded, Bool.false_eq_true, if_false, decide_eq_true_eq, Nat.add_zero] at loaded
  refine ⟨fun ip' => ?_, fun ip' => ?_, fun ip' => ?_, fun ip' => ?_, fun ip' v' kept => ?_⟩
  · have nonneg := limited.nonneg ip
    change 0 ≤ (s.manager.storeAttempts cfg ip (v + 1)).attempts ip'
    rw [updated]
    split_ifs
    · omega
    · exact limited.nonneg ip'
  · have moved := countP_set_add (p := Login.isUnstored ip') (b := .ended) at_
    have accounted := limited.accounted ip'
    simp only [Login.isUnstored, Bool.false_eq_true, if_false, decide_eq_true_eq, Nat.add_zero] at moved
    change (s.failures ip' : Int) ≤ (s.manager.storeAttempts cfg ip (v + 1)).attempts ip' +
      (((s.logins.set login .ended).countP (Login.isUnstored ip') : Nat) : Int)
    rw [updated]
    rw [unstored, ← moved] at accounted
    by_cases same : ip = ip'
    · subst same
      rw [if_pos rfl] at accounted ⊢
      push_cast at accounted
      omega
    · rw [if_neg same] at accounted
      rw [if_neg (Ne.symm same)]
      exact accounted
  · have kept : (s.logins.set login .ended).countP (Login.isPending lib cfg ip') =
        s.pending lib cfg ip' :=
      countP_set_same at_ rfl
    exact Int.le_trans (Int.le_of_eq (congrArg (fun n : Nat => (s.failures ip' : Int) + n) kept))
      (limited.room ip')
  · exact Nat.le_trans (Nat.le_of_add_right_le (Nat.le_of_eq (loaded ip'))) (limited.single ip')
  · change (s.manager.storeAttempts cfg ip (v + 1)).attempts ip' ≤ v'
    rw [updated]
    rcases List.mem_or_eq_of_mem_set kept with old | new
    · by_cases same : ip = ip'
      · -- there was one such login, and it has ended
        subst same
        have none_left : (s.logins.set login .ended).countP (Login.isLoaded ip) = 0 := by
          have one := loaded ip
          have single := limited.single ip
          rw [if_pos rfl] at one
          omega
        exact absurd (decide_eq_true rfl) (List.countP_eq_zero.mp none_left _ kept)
      · rw [if_neg (Ne.symm same)]
        exact limited.ahead ip' v' old
    · cases new

/-- The failures of an address are forgotten. -/
theorem Limited.reset (limited : Limited lib cfg s) (ip : String) :
    Limited lib cfg { s with
      manager := s.manager.resetAttempts ip, failures := Function.update s.failures ip 0 } := by
  have updated (ip' : String) :
      (s.manager.resetAttempts ip).attempts ip' = if ip' = ip then 0 else s.manager.attempts ip' := by
    rw [AuthManager.resetAttempts_attempts, Function.update_apply]
  refine ⟨fun ip' => ?_, fun ip' => ?_, fun ip' => ?_, limited.single, fun ip' v member => ?_⟩
  · change 0 ≤ (s.manager.resetAttempts ip).attempts ip'
    rw [updated]
    split_ifs
    · exact Int.le_refl 0
    · exact limited.nonneg ip'
  · have accounted := limited.accounted ip'
    change ((Function.update s.failures ip 0 ip' : Nat) : Int) ≤
      (s.manager.resetAttempts ip).attempts ip' + s.unstored ip'
    rw [updated, Function.update_apply]
    split_ifs <;> omega
  · have room := limited.room ip'
    change ((Function.update s.failures ip 0 ip' : Nat) : Int) + s.pending lib cfg ip' ≤ _
    rw [Function.update_apply]
    split_ifs <;> omega
  · have nonneg := limited.nonneg ip'
    have ahead := limited.ahead ip' v member
    change (s.manager.resetAttempts ip).attempts ip' ≤ v
    rw [updated]
    split_ifs <;> omega

theorem Limited.arrive (limited : Limited lib cfg s) (ip : String) (req : Option authLoginRequest) :
    Limited lib cfg { s with logins := s.logins ++ [.arrived ip req] } := by
  have same (p : Login → Bool) (out : p (.arrived ip req) = false) :
      (s.logins ++ [Login.arrived ip req]).countP p = s.logins.countP p := by
    rw [List.countP_append, List.countP_singleton, out]
    rfl
  refine ⟨limited.nonneg, fun ip' => ?_, fun ip' => ?_, fun ip' => ?_, fun ip' v member => ?_⟩
  · rw [unstored, same (Login.isUnstored ip') rfl]
    exact limited.accounted ip'
  · rw [pending, same (Login.isPending lib cfg ip') rfl]
    exact limited.room ip'
  · rw [same (Login.isLoaded ip') rfl]
    exact limited.single ip'
  · rcases List.mem_append.mp member with old | new
    · exact limited.ahead ip' v old
    · cases List.mem_singleton.mp new

theorem Limited.boot (positive : 0 < cfg.maxFailedAttempts) (s : Site) (now : Int)
    (unreadable : Bool) (key key' : Bytes) (saved saved' : Bool) :
    Limited lib cfg (s.boot cfg now unreadable key key' saved saved') := by
  obtain ⟨key₀, sessions, manager⟩ := boot_blank cfg s now unreadable key key' saved saved'
  have zero (ip : String) :
      (s.boot cfg now unreadable key key' saved saved').manager.attempts ip = 0 := by
    rw [manager]
    rfl
  refine ⟨fun ip => ?_, fun ip => ?_, fun ip => ?_, fun ip => Nat.zero_le 1, nofun⟩
  · exact Int.le_of_eq (zero ip).symm
  · rw [zero]
    exact Int.le_refl 0
  · exact Int.le_of_lt positive

theorem attempts_eq {a a' : AuthManager}
    (same : a'.failedAttempts = a.failedAttempts) : a'.attempts = a.attempts := by
  funext ip
  rw [AuthManager.attempts, same]
  rfl

/-- Consuming a challenge concerns no counter and no login. -/
theorem Limited.consume (limited : Limited lib cfg s) {username : String} {nonce : List Char}
    {now : Int} {s₁ : Site} {challenge : Option String}
    (consumed : s.consume lib username nonce now = (s₁, challenge)) :
    Limited lib cfg s₁ ∧ s₁.logins = s.logins := by
  obtain ⟨a, consumes, accepts⟩ := s.consume_cases lib username nonce now
  rw [consumed] at accepts
  cases accepts with
  | nothing => exact ⟨limited.congr (attempts_eq consumes.failedAttempts) rfl rfl, rfl⟩
  | one => exact ⟨limited.congr (attempts_eq consumes.failedAttempts) rfl rfl, rfl⟩

theorem Limited.look (limited : Limited lib cfg s) {login : Nat} {ip : String}
    {req : Option authLoginRequest} (at_ : s.logins[login]? = some (.arrived ip req))
    (inTurn : s.inTurn lib cfg (.isBlocked login) = true) {l : Login}
    (after : l = .ended ∨ l = .passed ip req ∧ s.manager.isBlocked cfg ip = false) :
    Limited lib cfg (s.setLogin login l) := by
  rcases after with rfl | ⟨rfl, open_⟩
  · exact limited.moveOn at_ nofun (fun _ => ⟨rfl, rfl⟩) fun _ => ⟨rfl, rfl⟩
  · simp only [Site.inTurn, at_, open_, Bool.false_eq_true, false_or, decide_eq_true_eq] at inTurn
    exact limited.pass at_ fun checked => inTurn.resolve_left (by simp [checked])

theorem Limited.step (positive : 0 < cfg.maxFailedAttempts) (limited : Limited lib cfg s)
    (inTurn : s.inTurn lib cfg e = true)
    (next : s.step lib cfg e = some s') : Limited lib cfg s' := by
  cases stepped next with
  | unchanged => exact limited
  | issues => exact limited.congr rfl rfl rfl
  | consumes username nonce now => exact (limited.consume rfl).1
  | arrives ip req => exact limited.arrive ip req
  | looks at_ manager after =>
    refine (limited.look at_ inTurn after).congr ?_ rfl rfl
    rcases manager with rfl | rfl
    · rfl
    · exact AuthManager.loadAttempts_attempts ..
  | refuses at_ => exact limited.moveOn at_ nofun (fun _ => ⟨rfl, rfl⟩) fun _ => ⟨rfl, rfl⟩
  | mismatches at_ now checked =>
    exact limited.fail at_ (fun _ => by rw [Login.isPending, checked, Bool.and_true]) fun _ => ⟨rfl, rfl⟩
  | accepts at_ consumed checked =>
    obtain ⟨limited, logins⟩ := limited.consume consumed
    rw [← logins] at at_
    refine limited.moveOn at_ (fun ip pending => ?_) (fun _ => ⟨rfl, rfl⟩) fun _ => ⟨rfl, rfl⟩
    exact Bool.and_eq_true_iff.mpr ⟨(Bool.and_eq_true_iff.mp pending).1, checked⟩
  | rejects at_ consumed checked =>
    obtain ⟨limited, logins⟩ := limited.consume consumed
    rw [← logins] at at_
    exact limited.fail at_ (fun _ => by rw [Login.isPending, checked, Bool.and_true]) fun _ => ⟨rfl, rfl⟩
  | @proves login ip req challenge at_ =>
    have noted : Limited lib cfg { s with checked := s.checked ++ [challenge] } :=
      limited.congr rfl rfl rfl
    exact noted.moveOn at_ nofun (fun _ => ⟨rfl, rfl⟩) fun _ => ⟨rfl, rfl⟩
  | @disproves login ip req challenge at_ differ =>
    have noted : Limited lib cfg { s with checked := s.checked ++ [challenge] } :=
      limited.congr rfl rfl rfl
    exact noted.fail at_
      (fun _ => by rw [Login.isPending, differ, Bool.not_false, Bool.and_true]) fun _ => ⟨rfl, rfl⟩
  | @creates login ip req challenge at_ now id saved a file session made =>
    have only := s.manager.createSession_only req.Username now id saved s.file
    rw [made] at only
    have moved :=
      limited.moveOn (k := .succeeding ip) at_ nofun (fun _ => ⟨rfl, rfl⟩) fun _ => ⟨rfl, rfl⟩
    exact moved.congr (attempts_eq only.failedAttempts) rfl rfl
  | @loses login ip req challenge at_ now id saved a file made =>
    have only := s.manager.createSession_only req.Username now id saved s.file
    rw [made] at only
    have moved := limited.moveOn (k := .ended) at_ nofun (fun _ => ⟨rfl, rfl⟩) fun _ => ⟨rfl, rfl⟩
    exact moved.congr (attempts_eq only.failedAttempts) rfl rfl
  | succeeds at_ =>
    have moved := limited.moveOn (k := .ended) at_ nofun (fun _ => ⟨rfl, rfl⟩) fun _ => ⟨rfl, rfl⟩
    exact moved.reset _
  | loads at_ =>
    simp only [Site.inTurn, at_, List.all_eq_true, Bool.not_eq_true'] at inTurn
    exact (limited.load at_ inTurn).congr (AuthManager.loadAttempts_attempts ..) rfl rfl
  | skips at_ unlimited => exact absurd positive unlimited
  | stores at_ => exact limited.store at_
  | resets ip => exact limited.reset ip
  | logsOut =>
    exact limited.congr (attempts_eq (AuthManager.HandleLogout_only ..).failedAttempts) rfl rfl
  | authenticates =>
    exact limited.congr (attempts_eq (AuthManager.IsAuthenticated_only ..).failedAttempts) rfl rfl
  | shows => exact limited.congr (attempts_eq (AuthManager.HandleSession_only ..).failedAttempts) rfl rfl
  | boots now unreadable key key' saved saved' =>
    exact Limited.boot positive s now unreadable key key' saved saved'

/-- While requests take turns, no address fails more often than the limit allows, and one that has
failed that often is blocked once its failures are recorded. -/
theorem failures_limited {events : List Event} (positive : 0 < cfg.maxFailedAttempts)
    (run : (system lib cfg).Run (fun s e => s.inTurn lib cfg e = true) events s) (ip : String) :
    (s.failures ip : Int) ≤ cfg.maxFailedAttempts ∧
      ((s.failures ip : Int) = cfg.maxFailedAttempts → s.unstored ip = 0 →
        s.manager.isBlocked cfg ip = true) := by
  have limited : Limited lib cfg s := by
    refine run.invariant (Limited lib cfg) ?_ fun _ _ _ limited inTurn next =>
      limited.step positive inTurn next
    rintro s ⟨now, unreadable, key, key', saved, saved', rfl⟩
    exact Limited.boot positive empty now unreadable key key' saved saved'
  have room := limited.room ip
  refine ⟨by omega, fun reached stored => ?_⟩
  have accounted := limited.accounted ip
  rw [reached, stored] at accounted
  exact decide_eq_true ⟨positive, by omega⟩

def guest : authLoginRequest := ⟨"guest", ['n'], ['p']⟩

def twice : AuthConfig := ⟨"admin", "secret", 2⟩

/-- No request below gets as far as a signature. -/
def unused : Library := ⟨fun _ => [], fun _ => none, fun _ _ => [], fun _ => []⟩

/-- Each request is checked to the end before the next one is; the third is refused. A request
without a body is let through beside the second. -/
def oneByOne : List Event :=
  [.HandleLogin "1.2.3.4" (some guest), .HandleLogin "1.2.3.4" (some guest),
    .HandleLogin "1.2.3.4" (some guest),
    .HandleLogin "1.2.3.4" none, .isBlocked 0, .credentials 0 0, .loadAttempts 0, .storeAttempts 0,
      .isBlocked 1, .isBlocked 3,
    .credentials 1 0, .credentials 3 0, .loadAttempts 1, .storeAttempts 1, .isBlocked 2]

theorem failures_limited_one_by_one :
    ∃ s, (system unused twice).Run (fun s e => s.inTurn unused twice e = true) oneByOne s ∧
      s.logins[2]? = some .ended ∧
      s.failures "1.2.3.4" = 2 ∧ (s.failures "1.2.3.4" : Int) ≤ twice.maxFailedAttempts ∧
      s.manager.isBlocked twice "1.2.3.4" = true := by
  have played : ((system unused twice).play (fun s e => s.inTurn unused twice e) oneByOne
    (empty.boot twice 0 false [1] [] true true)).any
      (fun s => s.logins[2]? = some .ended ∧ s.failures "1.2.3.4" = 2 ∧ s.unstored "1.2.3.4" = 0) =
        true := by
    decide +kernel
  obtain ⟨s, run, seen⟩ := System.Run.of_play (starts_boot unused twice 0 false [1] [] true true) played
  obtain ⟨refused, two, stored⟩ := of_decide_eq_true seen
  obtain ⟨most, blocked⟩ := failures_limited (by decide) run "1.2.3.4"
  exact ⟨s, run, refused, two, most, blocked (by rw [two]; rfl) stored⟩

/-- All three requests are let through before one of them is checked. -/
def allAtOnce : List Event :=
  [.HandleLogin "1.2.3.4" (some guest), .HandleLogin "1.2.3.4" (some guest),
    .HandleLogin "1.2.3.4" (some guest),
    .isBlocked 0, .isBlocked 1, .isBlocked 2, .credentials 0 0, .credentials 1 0, .credentials 2 0]

theorem three_failures_of_two : 0 < twice.maxFailedAttempts ∧
    ∃ s, (system unused twice).Run (fun _ _ => True) allAtOnce s ∧
      twice.maxFailedAttempts < s.failures "1.2.3.4" := by
  have played : ((system unused twice).play (fun _ _ => true) allAtOnce
    (empty.boot twice 0 false [1] [] true true)).any
      (fun s => s.failures "1.2.3.4" = 3) = true := by
    decide +kernel
  obtain ⟨s, run, seen⟩ := System.Run.of_play (starts_boot unused twice 0 false [1] [] true true) played
  refine ⟨by decide, s, run.mono fun _ _ _ => trivial, ?_⟩
  rw [of_decide_eq_true seen]
  decide

end Site

end Gotun.Admin
