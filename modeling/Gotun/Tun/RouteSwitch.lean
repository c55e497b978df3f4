import Gotun.Tun.RouteQuality
import Mathlib.Data.List.Chain

/-! Which member a monitor prefers. First the rule of one round, as a function of the counters
after it; then what holds along every run: a switch by policy is followed by another one only
after the cooldown, or by a fault three rounds later. -/

namespace Gotun.Tun
namespace routeQualityMonitor

/-! Runs. -/

inductive Event where
  | applyRound (results : List (String × routeProbeResult)) (available : List String) (now : Int)
  | preferred (available : List String) (now : Int)
  | rebuild (name : String) (service : Option Nat)
  | cancel

namespace Event

def step (q : routeQualityMonitor) : Event → routeQualityMonitor
  | .applyRound results available now => q.applyRound results available now
  | .preferred available now => q.preferred available now
  | .rebuild name service => q.rebuild name service
  | .cancel => q.cancel

/-- The results of a round are a map, and the running members come in member order. -/
def Valid (cfg : RouteConfig) : Event → Prop
  | .applyRound results available _ => (results.map Prod.fst).Nodup ∧ available.Sublist cfg.Members
  | .preferred available _ => available.Sublist cfg.Members
  | .rebuild name _ => name ∈ cfg.Members
  | .cancel => True

end Event

def run (cfg : RouteConfig) (events : List Event) : routeQualityMonitor :=
  events.foldl Event.step (newRouteQualityMonitor cfg)

/-! The invariant of single states. -/

/-- What holds of the counters of a member. -/
structure Good (s : routeMemberQualityState) : Prop where
  samples : s.Samples = s.window.length
  full : s.Samples ≤ routeQualityWindow
  bad : s.BadSamples = s.window.count true
  normal : 0 < s.ConsecutiveNormal → s.ConsecutiveFailures = 0

structure Sound (cfg : RouteConfig) (q : routeQualityMonitor) : Prop where
  config : q.cfg = cfg
  members : ∀ name, (q.states name).isSome ↔ name ∈ cfg.Members
  good : ∀ {name s}, q.states name = some s → Good s

theorem good_evaluating (service : Option Nat) : Good (evaluating service) :=
  ⟨rfl, Nat.zero_le _, rfl, fun _ => rfl⟩

theorem Good.countResult {s : routeMemberQualityState} (good : Good s) (allFailed : Bool)
    (r : routeProbeResult) :
    Good (countResult allFailed r s) := by
  unfold routeQualityMonitor.countResult
  split
  · exact ⟨good.samples, good.full, good.bad, fun positive => absurd positive (Nat.lt_irrefl 0)⟩
  · exact ⟨good.samples, good.full, good.bad, fun _ => rfl⟩

theorem Good.slideWindow {s : routeMemberQualityState} (good : Good s) (r : routeProbeResult) :
    Good (slideWindow r s) := by
  refine ⟨rfl, ?_, rfl, good.normal⟩
  have length := good.samples ▸ good.full
  simp only [routeQualityMonitor.slideWindow]
  split_ifs with long
  · rw [List.length_drop, List.length_append, List.length_singleton]
    omega
  · exact Nat.not_lt.mp long

theorem Good.updateMember {s : routeMemberQualityState} (good : Good s) (allFailed : Bool) (now : Int)
    (r : routeProbeResult) : Good (updateMember allFailed now r s) := by
  have noted : Good (noteResult now r s) := ⟨good.samples, good.full, good.bad, good.normal⟩
  have counted := noted.countResult allFailed r
  unfold routeQualityMonitor.updateMember
  dsimp only
  split_ifs
  · exact ⟨counted.samples, counted.full, counted.bad, counted.normal⟩
  · exact counted.slideWindow r

/-- A round counts at most one more failure. -/
theorem updateMember_failures (allFailed : Bool) (now : Int) (r : routeProbeResult)
    (s : routeMemberQualityState) :
    (updateMember allFailed now r s).ConsecutiveFailures ≤ s.ConsecutiveFailures + 1 := by
  have counted : (countResult allFailed r (noteResult now r s)).ConsecutiveFailures ≤
      s.ConsecutiveFailures + 1 := by
    unfold countResult
    split
    · dsimp only
      split
      · exact Nat.zero_le _
      · exact Nat.le_refl _
    · exact Nat.zero_le _
  unfold updateMember
  dsimp only
  split_ifs <;> exact counted

variable {cfg : RouteConfig} {q : routeQualityMonitor}

theorem Sound.of_states {q' : routeQualityMonitor} (sound : Sound cfg q) (config : q'.cfg = q.cfg)
    (states : q'.states = q.states) : Sound cfg q' :=
  ⟨config.trans sound.config, by rw [states]; exact sound.members, by rw [states]; exact sound.good⟩

theorem Sound.chooseLocked (sound : Sound cfg q) (name : String) (reason : Reason) (now : Int) :
    Sound cfg (q.chooseLocked name reason now) :=
  sound.of_states (chooseLocked_cfg ..) (chooseLocked_states ..)

theorem Sound.ensureCurrentLocked (sound : Sound cfg q) (available : List String) (now : Int) :
    Sound cfg (q.ensureCurrentLocked available now) := by
  rcases ensureCurrentLocked_cases available now q with ⟨same, _⟩ | ⟨_, name, reason, _, _, chosen⟩
  · rwa [same]
  · rw [chosen]
    exact sound.chooseLocked name reason now

theorem Sound.updated (sound : Sound cfg q) {results : List (String × routeProbeResult)}
    (distinct : (results.map Prod.fst).Nodup) (available : List String) (now : Int) :
    Sound cfg (q.updated results available now) := by
  have states := foldl_applyResult_states (commonFailure results available) now results distinct
    { q with rounds := q.rounds + 1 }
  obtain ⟨_, _, frame⟩ := updated_frame results available now q
  refine ⟨by rw [frame]; exact sound.config, fun name => ?_, fun {name s} present => ?_⟩
  · rw [routeQualityMonitor.updated, states name, Option.isSome_map]
    exact sound.members name
  · rw [routeQualityMonitor.updated, states name] at present
    obtain ⟨s', before, rfl⟩ := Option.map_eq_some_iff.mp present
    have good := sound.good before
    cases results.lookup name with
    | none => exact good
    | some r => exact good.updateMember _ now r

theorem Sound.applyRound (sound : Sound cfg q) {results : List (String × routeProbeResult)}
    (distinct : (results.map Prod.fst).Nodup) (available : List String) (now : Int) :
    Sound cfg (q.applyRound results available now) := by
  have repaired := (sound.updated distinct available now).ensureCurrentLocked available now
  unfold routeQualityMonitor.applyRound
  split
  · exact sound
  dsimp only
  split
  · exact repaired
  split
  · exact repaired
  split
  · unfold applyPriorityLocked
    split
    · exact repaired.chooseLocked _ _ _
    split
    · exact repaired
    split
    · exact repaired.chooseLocked _ _ _
    · exact repaired
  · unfold applyQualityLocked
    split
    · exact repaired.chooseLocked _ _ _
    split
    · exact repaired
    dsimp only
    split
    · exact repaired.chooseLocked _ _ _
    · exact repaired

theorem Sound.step (sound : Sound cfg q) {event : Event}
    (valid : event.Valid cfg) : Sound cfg (event.step q) := by
  cases event with
  | applyRound results available now => exact sound.applyRound valid.1 available now
  | preferred available now => exact sound.ensureCurrentLocked available now
  | cancel => exact sound.of_states rfl rfl
  | rebuild name service =>
    refine ⟨sound.config, fun other => ?_, fun {other s} present => ?_⟩
    · by_cases same : other = name
      · subst same
        simp only [Event.step, rebuild, Function.update_self, Option.isSome_some, true_iff]
        exact valid
      · simp only [Event.step, rebuild, Function.update_of_ne same]
        exact sound.members other
    · by_cases same : other = name
      · subst same
        simp only [Event.step, rebuild, Function.update_self, Option.some.injEq] at present
        exact present ▸ good_evaluating service
      · simp only [Event.step, rebuild, Function.update_of_ne same] at present
        exact sound.good present

theorem sound_new (cfg : RouteConfig) : Sound cfg (newRouteQualityMonitor cfg) := by
  refine ⟨rfl, fun name => ?_, fun {name s} present => ?_⟩
  · simp only [newRouteQualityMonitor]
    split <;> simp_all
  · simp only [newRouteQualityMonitor] at present
    split at present
    · exact Option.some.inj present ▸ good_evaluating none
    · cases present

/-- The counters of every reachable monitor are sound. -/
theorem sound_run (cfg : RouteConfig) (events : List Event) (valid : ∀ event ∈ events, event.Valid cfg) :
    Sound cfg (run cfg events) := by
  have from_sound {q : routeQualityMonitor} (sound : Sound cfg q) :
      Sound cfg (events.foldl Event.step q) := by
    induction events generalizing q with
    | nil => exact sound
    | cons event rest ih =>
      exact ih (fun event member => valid event (List.mem_cons_of_mem _ member))
        (sound.step (valid event List.mem_cons_self))
  exact from_sound (sound_new cfg)

/-! The rule of one round, stated over the counters after it. -/

def failuresOf (q : routeQualityMonitor) (name : String) : Nat :=
  ((q.states name).map (·.ConsecutiveFailures)).getD 0

def samplesOf (q : routeQualityMonitor) (name : String) : Nat := ((q.states name).map (·.Samples)).getD 0

/-- The current member if it is running, else the first reliable one (under priority), else the
first running one, else none. -/
def repairedTo (q : routeQualityMonitor) (available : List String) : String :=
  if q.current ∈ available then q.current
  else match q.cfg.Policy, available.find? q.reliable with
    | .priority, some candidate => candidate
    | _, _ => available.head?.getD ""

/-- A full window that does not end in a failure, with at least three bad samples fewer. -/
def better (q : routeQualityMonitor) (cur name : String) : Bool :=
  q.samplesOf name = routeQualityWindow ∧ q.failuresOf name = 0 ∧ q.badOf name + 3 ≤ q.badOf cur

/-- The first of the better members with the fewest bad samples. -/
def fewestBad (q : routeQualityMonitor) (cur : String) (available : List String) : Option String :=
  available.find? fun name => q.better cur name ∧ ∀ other ∈ available, q.better cur other →
    q.badOf name ≤ q.badOf other

/-- The member selected by a round, from the counters after it. -/
def ruledTo (q : routeQualityMonitor) (available : List String) (now : Int) (common : Bool) : String :=
  let cur := q.repairedTo available
  let since := now - if cur = q.current then q.lastSwitch else now
  if cur = "" ∨ common then cur
  else match (if 3 ≤ q.failuresOf cur then available.find? fun name => name ≠ cur ∧
    q.reliable name else none) with
    | some name => name
    | none =>
      match q.cfg.Policy with
      | .priority =>
        if cooldown ≤ since then ((available.takeWhile (· ≠ cur)).find? q.reliable).getD cur else cur
      | .quality =>
        if q.samplesOf cur = routeQualityWindow ∧ cooldown ≤ since then
          (q.fewestBad cur available).getD cur
        else cur

theorem ensureCurrentLocked_current (available : List String) (now : Int) (q : routeQualityMonitor) :
    (q.ensureCurrentLocked available now).current = q.repairedTo available := by
  unfold ensureCurrentLocked repairedTo
  split_ifs with running
  · rfl
  · cases available with
    | nil => simp
    | cons first rest =>
      cases q.cfg.Policy <;> cases (first :: rest).find? q.reliable <;> exact chooseLocked_current ..

theorem ensureCurrentLocked_lastSwitch (available : List String) (now : Int) (q : routeQualityMonitor) :
    (q.ensureCurrentLocked available now).lastSwitch =
      if q.repairedTo available = q.current then q.lastSwitch else now := by
  rw [← ensureCurrentLocked_current available now]
  rcases ensureCurrentLocked_cases available now q with ⟨same, _⟩ | ⟨_, name, reason, _, _, chosen⟩
  · rw [same, if_pos rfl]
  · rw [chosen, chooseLocked_current, chooseLocked]
    split_ifs <;> rfl

/-- The loop for the best member keeps the given one, or ends at the first member with the
fewest bad samples. -/
theorem bestLoop_spec (q : routeQualityMonitor) (names : List String) (best : String) :
    (q.bestLoop names best = best ∧ ∀ name ∈ names, q.eligible name → q.badOf best ≤ q.badOf name) ∨
      ∃ before after, names = before ++ q.bestLoop names best :: after ∧
        q.eligible (q.bestLoop names best) ∧
        q.badOf (q.bestLoop names best) < q.badOf best ∧
        (∀ name ∈ before, q.eligible name → q.badOf (q.bestLoop names best) < q.badOf name) ∧
        ∀ name ∈ after, q.eligible name → q.badOf (q.bestLoop names best) ≤ q.badOf name := by
  induction names generalizing best with
  | nil => exact Or.inl ⟨rfl, nofun⟩
  | cons name rest ih =>
    rw [bestLoop]
    split_ifs with improves
    · -- The first name takes over; it stays, or a later one beats it.
      rcases ih name with ⟨same, least⟩ | ⟨before, after, split, fit, less, first, last⟩
      · rw [same]
        exact Or.inr ⟨[], rest, rfl, improves.1, improves.2, nofun, least⟩
      · refine Or.inr
          ⟨name :: before, after, congrArg (name :: ·) split, fit, less.trans improves.2, ?_, last⟩
        intro other member fit
        rcases List.mem_cons.mp member with rfl | member
        · exact less
        · exact first other member fit
    · have kept (fit : q.eligible name) : q.badOf best ≤ q.badOf name :=
        Nat.not_lt.mp fun less => improves ⟨fit, less⟩
      rcases ih best with ⟨same, least⟩ | ⟨before, after, split, fit, less, first, last⟩
      · refine Or.inl ⟨same, fun other member fit => ?_⟩
        rcases List.mem_cons.mp member with rfl | member
        · exact kept fit
        · exact least other member fit
      · refine Or.inr ⟨name :: before, after, congrArg (name :: ·) split, fit, less, ?_, last⟩
        intro other member fit
        rcases List.mem_cons.mp member with rfl | member
        · exact less.trans_le (kept fit)
        · exact first other member fit

theorem eligible_iff (sound : Sound cfg q) {name : String} (member : name ∈ cfg.Members) :
    q.eligible name = true ↔ q.samplesOf name = routeQualityWindow ∧ q.failuresOf name = 0 := by
  obtain ⟨s, present⟩ := Option.isSome_iff_exists.mp ((sound.members name).mpr member)
  simp [eligible, samplesOf, failuresOf, present]

/-- The quality switch of the code is the declared one. -/
theorem bestLoop_fewestBad (sound : Sound cfg q) {available : List String}
    (members : ∀ name ∈ available, name ∈ cfg.Members) (cur : String) :
    (if q.bestLoop available cur ≠ cur ∧ 3 ≤ (q.badOf cur : Int) - q.badOf (q.bestLoop available cur)
      then q.bestLoop available cur else cur) = (q.fewestBad cur available).getD cur := by
  have better_iff {name : String} (member : name ∈ available) :
      q.better cur name = true ↔ q.eligible name = true ∧ q.badOf name + 3 ≤ q.badOf cur := by
    rw [better, decide_eq_true_eq, eligible_iff sound (members name member), and_assoc]
  have none_better (low : ∀ name ∈ available, q.eligible name → q.badOf cur < q.badOf name + 3) :
      q.fewestBad cur available = none := by
    refine List.find?_eq_none.mpr fun name member found => ?_
    obtain ⟨fit, fewer⟩ := (better_iff member).mp (of_decide_eq_true found).1
    have bound := low name member fit
    omega
  rcases bestLoop_spec q available cur with
    ⟨same, least⟩ | ⟨before, after, split, fit, less, first, last⟩
  · rw [if_neg (fun switch => switch.1 same), none_better, Option.getD_none]
    intro name member fit
    have bound := least name member fit
    omega
  generalize q.bestLoop available cur = best at split fit less first last ⊢
  have least : ∀ name ∈ available, q.eligible name → q.badOf best ≤ q.badOf name := by
    intro name member fit
    rw [split] at member
    rcases List.mem_append.mp member with member | member
    · exact (first name member fit).le
    · rcases List.mem_cons.mp member with rfl | member
      · exact le_rfl
      · exact last name member fit
  have best_member : best ∈ available := split ▸ List.mem_append_right _ List.mem_cons_self
  by_cases gap : q.badOf best + 3 ≤ q.badOf cur
  · have found : q.fewestBad cur available = some best := by
      refine List.find?_eq_some_iff_append.mpr ⟨?_, before, after, split, fun name member => ?_⟩
      · rw [decide_eq_true_eq, better_iff best_member]
        exact ⟨⟨fit, gap⟩, fun other member fewer => least other member ((better_iff member).mp fewer).1⟩
      · have inside : name ∈ available := split ▸ List.mem_append_left _ member
        rw [Bool.not_eq_true', decide_eq_false_iff_not, better_iff inside]
        rintro ⟨⟨fit_name, _⟩, minimal⟩
        have bound := minimal best best_member ((better_iff best_member).mpr ⟨fit, gap⟩)
        have more := first name member fit_name
        omega
    rw [found, if_pos ⟨fun same => by rw [same] at less; omega, by omega⟩, Option.getD_some]
  · rw [if_neg (by omega), none_better, Option.getD_none]
    intro name member fit
    have bound := least name member fit
    omega

/-- A repair changes the choice, its time and its records only. -/
theorem ensureCurrentLocked_frame (available : List String) (now : Int)
    (q : routeQualityMonitor) : ∃ log switches,
    q.ensureCurrentLocked available now = { q with
      log, switches, current := q.repairedTo available
      lastSwitch := if q.repairedTo available = q.current then q.lastSwitch else now } := by
  have current := ensureCurrentLocked_current available now q
  have lastSwitch := ensureCurrentLocked_lastSwitch available now q
  rw [← lastSwitch, ← current]
  rcases ensureCurrentLocked_cases available now q with ⟨same, _⟩ | ⟨_, name, reason, _, _, chosen⟩
  · rw [same]
    exact ⟨q.log, q.switches, rfl⟩
  · rw [chosen, chooseLocked]
    split_ifs
    · exact ⟨q.log, q.switches, rfl⟩
    · exact ⟨_, _, rfl⟩

theorem repairedTo_mem (available : List String) (q : routeQualityMonitor) :
    q.repairedTo available = "" ∨ q.repairedTo available ∈ available := by
  rw [← ensureCurrentLocked_current available 0]
  rcases ensureCurrentLocked_cases available 0 q with
    ⟨same, running⟩ | ⟨_, name, reason, _, member, chosen⟩
  · rw [same]
    exact Or.inr running
  · rw [chosen, chooseLocked_current]
    exact member

theorem applyPriorityLocked_current (available : List String) (cur : routeMemberQualityState) (now : Int)
    (q : routeQualityMonitor) : (q.applyPriorityLocked available cur now).current =
      match q.faultSwitch available cur with
      | some name => name
      | none =>
        if cooldown ≤ now - q.lastSwitch then
          ((available.takeWhile (· ≠ q.current)).find? q.reliable).getD q.current
        else q.current := by
  unfold applyPriorityLocked
  cases q.faultSwitch available cur with
  | some name => exact chooseLocked_current ..
  | none =>
    dsimp only
    split_ifs with early late late
    · omega
    · rfl
    · cases (available.takeWhile (· ≠ q.current)).find? q.reliable with
      | some name => exact chooseLocked_current ..
      | none => rfl
    · omega

theorem applyQualityLocked_current (sound : Sound cfg q) {available : List String}
    {cur : routeMemberQualityState} (members : ∀ name ∈ available, name ∈ cfg.Members)
    (present : q.states q.current = some cur) (now : Int) :
    (q.applyQualityLocked available cur now).current =
      match q.faultSwitch available cur with
      | some name => name
      | none =>
        if cur.Samples = routeQualityWindow ∧ cooldown ≤ now - q.lastSwitch
          then (q.fewestBad q.current available).getD q.current else q.current := by
  have bad : q.badOf q.current = cur.BadSamples := by simp [badOf, present]
  have full := (sound.good present).full
  have best := bestLoop_fewestBad sound members q.current
  rw [bad] at best
  unfold applyQualityLocked
  cases q.faultSwitch available cur with
  | some name => exact chooseLocked_current ..
  | none =>
    dsimp only
    by_cases early : cur.Samples < routeQualityWindow ∨ now - q.lastSwitch < cooldown
    · have not_late : ¬ (cur.Samples = routeQualityWindow ∧ cooldown ≤ now - q.lastSwitch) := by omega
      rw [if_pos early, if_neg not_late]
    · have late : cur.Samples = routeQualityWindow ∧ cooldown ≤ now - q.lastSwitch := by omega
      rw [if_neg early, if_pos late, ← best]
      split_ifs
      · exact chooseLocked_current ..
      · rfl

/-- In every reachable state, a round selects exactly the member that the rule names. -/
theorem applyRound_ruled (cfg : RouteConfig) (events : List Event)
    (valid : ∀ event ∈ events, event.Valid cfg) (live : (run cfg events).cancelled = false)
    (results : List (String × routeProbeResult))
    (complete : (results.map Prod.fst).Perm cfg.Members) (available : List String)
    (running : available.Sublist cfg.Members) (now : Int) :
    ((run cfg events).applyRound results available now).current =
      ((run cfg events).updated results available now).ruledTo available now
        (commonFailure results available) := by
  have distinct := complete.nodup_iff.mpr cfg.distinct
  have sound := (sound_run cfg events valid).updated distinct available now
  rw [applyRound, if_neg (by simp [live])]
  generalize (run cfg events).updated results available now = q at sound ⊢
  have repaired := sound.ensureCurrentLocked available now
  have member := repairedTo_mem available q
  obtain ⟨log, switches, frame⟩ := ensureCurrentLocked_frame available now q
  rw [frame] at repaired ⊢
  have members : ∀ name ∈ available, name ∈ cfg.Members := fun name found => running.subset found
  dsimp only
  rw [ruledTo]
  by_cases nobody : q.repairedTo available = ""
  · have unknown : q.states "" = none := by
      rw [← Option.not_isSome_iff_eq_none, sound.members]
      exact cfg.named
    rw [nobody, unknown, if_pos (Or.inl rfl)]
  have chosen := members _ (member.resolve_left nobody)
  obtain ⟨cur, present⟩ := Option.isSome_iff_exists.mp ((sound.members _).mpr chosen)
  have failures : q.failuresOf (q.repairedTo available) = cur.ConsecutiveFailures := by
    simp [failuresOf, present]
  have samples : q.samplesOf (q.repairedTo available) = cur.Samples := by simp [samplesOf, present]
  rw [present]
  dsimp only
  cases common : commonFailure results available with
  | true => rw [if_pos rfl, if_pos (Or.inr rfl)]
  | false =>
    have goes_on : ¬ (q.repairedTo available = "" ∨ false = true) := by simp [nobody]
    rw [if_neg Bool.false_ne_true, if_neg goes_on, failures, samples]
    cases q.cfg.Policy with
    | priority => exact applyPriorityLocked_current available cur now _
    | quality => exact applyQualityLocked_current repaired members present now

/-- Two members, `a` before `b`. -/
def twoMembers (policy : Policy) : RouteConfig := ⟨["a", "b"], policy, by decide, by decide⟩

def bothNormal : List (String × routeProbeResult) :=
  [("a", ⟨.normal, 1, "", ""⟩), ("b", ⟨.normal, 1, "", ""⟩)]

def firstFailed : List (String × routeProbeResult) :=
  [("a", ⟨.failed, 1, "", "failed"⟩), ("b", ⟨.normal, 1, "", ""⟩)]

/-- Three rounds in which `a` fails, and a good one. -/
def failedOver : List Event :=
  [.applyRound firstFailed ["a", "b"] 0, .applyRound firstFailed ["a", "b"] 1,
    .applyRound firstFailed ["a", "b"] 2,
    .applyRound bothNormal ["a", "b"] 3]

theorem failedOver_valid : ∀ event ∈ failedOver, event.Valid (twoMembers .priority) := by
  have both : (bothNormal.map Prod.fst).Nodup ∧ ["a", "b"].Sublist (twoMembers .priority).Members :=
    ⟨by decide, .refl _⟩
  have first : (firstFailed.map Prod.fst).Nodup ∧ ["a", "b"].Sublist (twoMembers .priority).Members :=
    ⟨by decide, .refl _⟩
  simp only [failedOver, List.forall_mem_cons, Event.Valid]
  exact ⟨first, first, first, both, nofun⟩

/-- The failures have moved the selection to `b`, and the first good round after the cooldown moves
it back. -/
theorem two_members_ruled :
    (run (twoMembers .priority) failedOver).current = "b" ∧
    ((run (twoMembers .priority) failedOver).applyRound bothNormal ["a", "b"] (cooldown + 2)).current =
      ((run (twoMembers .priority) failedOver).updated bothNormal ["a", "b"] (cooldown + 2)).ruledTo
        ["a", "b"] (cooldown + 2)
        (commonFailure bothNormal ["a", "b"]) ∧
    ((run (twoMembers .priority) failedOver).applyRound bothNormal ["a", "b"]
      (cooldown + 2)).current = "a" := by
  have live : (run (twoMembers .priority) failedOver).cancelled = false := by decide
  exact ⟨by decide, applyRound_ruled (twoMembers .priority) failedOver failedOver_valid live
    bothNormal (.refl _) ["a", "b"] (.refl _) (cooldown + 2), by decide⟩

/-- After a round in which both members answered but only `b` was running. -/
def secondRunning : routeQualityMonitor := run (twoMembers .priority) [.applyRound bothNormal ["b"] 0]

/-- The first member is reliable and the cooldown is over, but it is not running: `b` stays. -/
theorem stopped_member_skipped :
    secondRunning.current = "b" ∧ secondRunning.cancelled = false ∧
      cooldown ≤ cooldown - secondRunning.lastSwitch ∧
      (secondRunning.updated bothNormal ["b"] cooldown).failuresOf "b" = 0 ∧
        commonFailure bothNormal ["b"] = false ∧
      2 ≤ (secondRunning.updated bothNormal ["b"] cooldown).normalOf "a" ∧
      (secondRunning.applyRound bothNormal ["b"] cooldown).current = "b" := by
  decide

/-! Runs do not flap. -/

/-- A switch by policy after another one: later than the cooldown, or a fault three rounds on. -/
def Apart (earlier later : Switch) : Prop :=
  earlier.reason.ByPolicy → later.reason.ByPolicy →
    earlier.time + cooldown ≤ later.time ∨ later.reason.IsFault ∧ earlier.round + 3 ≤ later.round

/-- Consecutive switches are apart. After a switch by policy the current member has failed at
most as often in a row as there were rounds since. -/
structure Spaced (q : routeQualityMonitor) : Prop where
  apart : q.switches.IsChain Apart
  latest : ∀ s ∈ q.switches.getLast?, s.reason.ByPolicy →
    q.lastSwitch = s.time ∧ s.round + q.failuresOf q.current ≤ q.rounds

theorem failuresOf_reliable (sound : Sound cfg q) {name : String} (normal : 2 ≤ q.normalOf name) :
    q.failuresOf name = 0 := by
  cases present : q.states name with
  | none => simp [failuresOf, present]
  | some s =>
    simp only [normalOf, present, Option.map_some, Option.getD_some] at normal
    simp only [failuresOf, present, Option.map_some, Option.getD_some]
    exact (sound.good present).normal (by omega)

theorem failuresOf_eligible {name : String} (fit : q.eligible name) : q.failuresOf name = 0 := by
  cases present : q.states name with
  | none => simp [failuresOf, present]
  | some s =>
    simp only [eligible, present, decide_eq_true_eq] at fit
    simpa [failuresOf, present] using fit.2

theorem faultSwitch_some {available : List String} {cur : routeMemberQualityState} {name : String}
    (found : q.faultSwitch available cur = some name) :
    3 ≤ cur.ConsecutiveFailures ∧ 2 ≤ q.normalOf name := by
  unfold faultSwitch at found
  split_ifs at found with failing
  have chosen := List.find?_some found
  rw [decide_eq_true_eq] at chosen
  exact ⟨failing, of_decide_eq_true chosen.2⟩

/-- All that a round can do after the repair: nothing, or a switch by policy to a member that
has not failed last, because of a fault or after the cooldown. -/
def SwitchesFrom (q : routeQualityMonitor) (now : Int) (after : routeQualityMonitor) : Prop :=
  after = q ∨ ∃ name reason, reason.ByPolicy ∧ q.failuresOf name = 0 ∧
    after = q.chooseLocked name reason now ∧
    (reason.IsFault ∧ 3 ≤ q.failuresOf q.current ∨ q.lastSwitch + cooldown ≤ now)

variable {available : List String} {cur : routeMemberQualityState}

theorem applyPriorityLocked_switches (sound : Sound cfg q) (present : q.states q.current = some cur)
    (now : Int) :
    q.SwitchesFrom now (q.applyPriorityLocked available cur now) := by
  unfold applyPriorityLocked
  split
  · rename_i name found
    obtain ⟨failing, normal⟩ := faultSwitch_some found
    refine Or.inr ⟨name, .failover cur.ConsecutiveFailures (q.normalOf name), trivial,
      failuresOf_reliable sound normal, rfl, Or.inl ⟨trivial, ?_⟩⟩
    simpa [failuresOf, present] using failing
  split
  · exact Or.inl rfl
  · rename_i late
    split
    · rename_i name found
      have normal : 2 ≤ q.normalOf name := by simpa [reliable] using List.find?_some found
      exact Or.inr ⟨name, .recovery (q.normalOf name), trivial, failuresOf_reliable sound normal, rfl,
        Or.inr (by omega)⟩
    · exact Or.inl rfl

theorem applyQualityLocked_switches (sound : Sound cfg q) (present : q.states q.current = some cur)
    (now : Int) :
    q.SwitchesFrom now (q.applyQualityLocked available cur now) := by
  unfold applyQualityLocked
  split
  · rename_i name found
    obtain ⟨failing, normal⟩ := faultSwitch_some found
    refine Or.inr ⟨name, .fault cur.ConsecutiveFailures (q.normalOf name), trivial,
      failuresOf_reliable sound normal, rfl, Or.inl ⟨trivial, ?_⟩⟩
    simpa [failuresOf, present] using failing
  split
  · exact Or.inl rfl
  · rename_i late
    dsimp only
    split
    · rename_i improves
      rcases bestLoop_spec q available q.current with ⟨same, _⟩ | ⟨_, _, _, fit, _⟩
      · exact absurd same improves.1
      · exact Or.inr ⟨_, .better cur.BadSamples (q.badOf (q.bestLoop available q.current)), trivial,
          failuresOf_eligible fit, rfl, Or.inr (by omega)⟩
    · exact Or.inl rfl

theorem applyRound_switches (sound : Sound cfg q) (live : q.cancelled = false)
    {results : List (String × routeProbeResult)} (distinct : (results.map Prod.fst).Nodup)
    (available : List String) (now : Int) :
    ((q.updated results available now).ensureCurrentLocked available now).SwitchesFrom now
      (q.applyRound results available now) := by
  have sound := (sound.updated distinct available now).ensureCurrentLocked available now
  rw [applyRound, if_neg (by simp [live])]
  generalize (q.updated results available now).ensureCurrentLocked available now = e at sound ⊢
  dsimp only
  split
  · exact Or.inl rfl
  · rename_i cur present
    split
    · exact Or.inl rfl
    · split
      · exact applyPriorityLocked_switches sound present now
      · exact applyQualityLocked_switches sound present now

/-- Appending a switch keeps the others apart, if it is apart from the latest one. -/
theorem isChain_concat {switches : List Switch} {s : Switch} (apart : switches.IsChain Apart)
    (latest : ∀ last ∈ switches.getLast?, Apart last s) : (switches ++ [s]).IsChain Apart :=
  apart.append (List.isChain_singleton s) fun last member next same => by
    rw [List.head?_cons, Option.mem_some_iff] at same
    exact same ▸ latest last member

/-- A repair is apart from any switch, and makes no promise about the next. -/
theorem Spaced.repair (spaced : Spaced q) (name : String) {reason : Reason}
    (own : ¬ reason.ByPolicy) (now : Int) :
    Spaced (q.chooseLocked name reason now) := by
  unfold chooseLocked
  split_ifs
  · exact spaced
  · refine ⟨isChain_concat spaced.apart fun _ _ _ policy => absurd policy own, fun s last policy => ?_⟩
    rw [List.getLast?_concat, Option.mem_some_iff] at last
    subst last
    exact absurd policy own

theorem Spaced.ensureCurrentLocked (spaced : Spaced q) (available : List String) (now : Int) :
    Spaced (q.ensureCurrentLocked available now) := by
  rcases ensureCurrentLocked_cases available now q with ⟨same, _⟩ | ⟨_, name, reason, own, _, chosen⟩
  · rwa [same]
  · rw [chosen]
    exact spaced.repair name own now

theorem Spaced.switch (spaced : Spaced q) {now : Int} {after : routeQualityMonitor}
    (switches : q.SwitchesFrom now after) :
    Spaced after := by
  rcases switches with rfl | ⟨name, reason, policy, fresh, rfl, cause⟩
  · exact spaced
  unfold chooseLocked
  split_ifs
  · exact spaced
  · refine ⟨isChain_concat spaced.apart fun last member byPolicy _ => ?_, fun s last _ => ?_⟩
    · obtain ⟨time, count⟩ := spaced.latest last member byPolicy
      rcases cause with ⟨fault, failing⟩ | late
      · exact Or.inr ⟨fault, by simp only; omega⟩
      · exact Or.inl (by simp only; omega)
    · rw [List.getLast?_concat, Option.mem_some_iff] at last
      subst last
      exact ⟨rfl, Nat.le_of_eq (congrArg (q.rounds + ·) fresh)⟩

/-- In a round, the current member fails at most once more. -/
theorem Spaced.updated (spaced : Spaced q) {results : List (String × routeProbeResult)}
    (distinct : (results.map Prod.fst).Nodup) (available : List String) (now : Int) :
    Spaced (q.updated results available now) := by
  have states := foldl_applyResult_states (commonFailure results available) now results distinct
    { q with rounds := q.rounds + 1 } q.current
  have count : (q.updated results available now).failuresOf q.current ≤ q.failuresOf q.current + 1 := by
    unfold failuresOf routeQualityMonitor.updated
    rw [states]
    cases q.states q.current with
    | none => simp
    | some s =>
      cases results.lookup q.current with
      | none => simp
      | some r => simpa using updateMember_failures _ now r s
  obtain ⟨_, _, frame⟩ := updated_frame results available now q
  refine ⟨by rw [frame]; exact spaced.apart, fun s last policy => ?_⟩
  obtain ⟨time, bound⟩ := spaced.latest s (by rw [frame] at last; exact last) policy
  have current : (q.updated results available now).current = q.current := by rw [frame]
  have rounds : (q.updated results available now).rounds = q.rounds + 1 := by rw [frame]
  exact ⟨by rw [frame]; exact time, by rw [current, rounds]; omega⟩

theorem Spaced.rebuild (spaced : Spaced q) (name : String) (service : Option Nat) :
    Spaced (q.rebuild name service) := by
  refine ⟨spaced.apart, fun s last policy => ?_⟩
  obtain ⟨time, bound⟩ := spaced.latest s last policy
  refine ⟨time, ?_⟩
  by_cases same : q.current = name
  · have none_failed : (q.rebuild name service).failuresOf q.current = 0 := by
      simp [failuresOf, routeQualityMonitor.rebuild, same, evaluating]
    have rounds : s.round ≤ q.rounds := by omega
    exact none_failed ▸ rounds
  · have kept : (q.rebuild name service).failuresOf q.current = q.failuresOf q.current := by
      simp [failuresOf, routeQualityMonitor.rebuild, Function.update_of_ne same]
    exact kept ▸ bound

theorem Spaced.step (sound : Sound cfg q) (spaced : Spaced q) {event : Event} (valid : event.Valid cfg) :
    Spaced (event.step q) := by
  cases event with
  | preferred available now => exact spaced.ensureCurrentLocked available now
  | rebuild name service => exact spaced.rebuild name service
  | cancel => exact ⟨spaced.apart, spaced.latest⟩
  | applyRound results available now =>
    cases live : q.cancelled with
    | true =>
      rw [Event.step, applyRound, if_pos live]
      exact spaced
    | false =>
      exact ((spaced.updated valid.1 available now).ensureCurrentLocked available now).switch
        (applyRound_switches sound live valid.1 available now)

theorem spaced_run (cfg : RouteConfig) (events : List Event)
    (valid : ∀ event ∈ events, event.Valid cfg) :
    Spaced (run cfg events) := by
  have from_spaced {q : routeQualityMonitor} (sound : Sound cfg q) (spaced : Spaced q) :
      Spaced (events.foldl Event.step q) := by
    induction events generalizing q with
    | nil => exact spaced
    | cons event rest ih =>
      have first := valid event List.mem_cons_self
      exact ih (fun event member => valid event (List.mem_cons_of_mem _ member)) (sound.step first)
        (spaced.step sound first)
  exact from_spaced (sound_new cfg) ⟨List.isChain_nil, nofun⟩

/-- In every run, of two switches by policy with no switch in between, the later one comes after
the cooldown, or is a fault switch at least three rounds later. -/
theorem switches_apart (cfg : RouteConfig) (events : List Event)
    (valid : ∀ event ∈ events, event.Valid cfg) (before after : List Switch)
    (earlier later : Switch)
    (adjacent : (run cfg events).switches = before ++ earlier :: later :: after)
    (policy : earlier.reason.ByPolicy) (policy' : later.reason.ByPolicy) :
    earlier.time + cooldown ≤ later.time ∨ later.reason.IsFault ∧ earlier.round + 3 ≤ later.round :=
  List.isChain_iff_forall_rel_of_append_cons_cons.mp
    (spaced_run cfg events valid).apart adjacent policy policy'

/-- `a` is good again after the cooldown. -/
def failThenRecover : List Event := failedOver ++ [.applyRound bothNormal ["a", "b"] (cooldown + 2)]

theorem fail_then_recover_apart :
    (run (twoMembers .priority) failThenRecover).switches =
      [⟨1, 0, "a", .firstRunning⟩] ++ ⟨3, 2, "b", .failover 3 3⟩ ::
        ⟨5, cooldown + 2, "a", .recovery 2⟩ :: [] ∧
    (2 + cooldown ≤ cooldown + 2 ∨ (Reason.recovery 2).IsFault ∧ 3 + 3 ≤ 5) := by
  have switches : (run (twoMembers .priority) failThenRecover).switches =
      [⟨1, 0, "a", .firstRunning⟩] ++ ⟨3, 2, "b", .failover 3 3⟩ ::
        ⟨5, cooldown + 2, "a", .recovery 2⟩ :: [] := by
    decide
  refine ⟨switches,
    switches_apart (twoMembers .priority) failThenRecover ?_ _ _ _ _ switches trivial trivial⟩
  intro event member
  rcases List.mem_append.mp member with early | last
  · exact failedOver_valid event early
  · obtain rfl := List.mem_singleton.mp last
    exact ⟨by decide, .refl _⟩

end routeQualityMonitor

end Gotun.Tun
