import Gotun.Tun.ManagerRuns
import Gotun.Tun.RouteSwitch

/-! Rounds of probes while the members change. A round looks up every member and probes it,
collects the answers, and commits them under the read lock of the manager; meanwhile the manager
adds, replaces, disables and removes services. -/

namespace Gotun.Tun
namespace routeQualityMonitor

open Gotun.Lib

/-- Where `round` is. `looked` are the members that were looked up, each with its instance;
`checking` is the loop under the lock, with the members still to check. -/
inductive Phase where
  | idle
  | probing (looked : List (String × Option Nat)) (answers : List (String × routeProbeResult))
  | checking (looked : List (String × Option Nat)) (answers : List (String × routeProbeResult))
      (todo : List String)
      (results : List (String × routeProbeResult)) (available : List String)

def Phase.looked : Phase → List (String × Option Nat)
  | .idle => []
  | .probing looked _ => looked
  | .checking looked _ _ _ _ => looked

/-- A committed round: what it looked up, and what was registered when it was committed. -/
structure Commit where
  looked : List (String × Option Nat)
  registered : String → Option Nat
  results : List (String × routeProbeResult)
  available : List String
  now : Int

/-- The state of a member after the round. -/
def Commit.update (name : String) (s : routeMemberQualityState) (c : Commit) : routeMemberQualityState :=
  ((c.results.lookup name).map fun r =>
    updateMember (commonFailure c.results c.available) c.now r s).getD s

/-- `touched` are the members that had another instance, or none, at some moment since the round
looked them up; `commits` are all rounds committed so far. Both are for the proofs. -/
structure Watch where
  manager : Manager
  monitor : routeQualityMonitor
  phase : Phase
  touched : List String
  commits : List Commit

def Watch.registered (w : Watch) (name : String) : Option Nat := (w.manager.services name).map (·.id)

inductive Watch.Event where
  | manager (event : Manager.Event)
  | preferred (available : List String) (now : Int)
  | cancel
  | start
  | look
  | answer (name : String) (running : Bool) (result : routeProbeResult)
  | leave
  | lock
  | check (running : Bool)
  | apply (order : List (String × routeProbeResult)) (now : Int)

/-- The steps of `round`. -/
def Watch.Event.ByRound : Watch.Event → Prop
  | .manager _ | .preferred _ _ | .cancel => False
  | _ => True

def notRunning : routeProbeResult := ⟨.failed, 0, "member 未运行或已禁用", "failed"⟩

/-- The member starts over when its state is about another instance. -/
def renew (name : String) (service : Option Nat) (q : routeQualityMonitor) : routeQualityMonitor :=
  match q.states name with
  | none => q
  | some s => if s.service ≠ service then q.rebuild name service else q

namespace Watch

variable (h : Host) (w : Watch)

/-- The write lock of the manager is not to be had while a round is checking. -/
def manage (event : Manager.Event) : Option Watch :=
  match w.phase with
  | .checking _ _ _ _ _ => none
  | _ => (Manager.step h w.manager event).map fun manager =>
    { w with
      manager
      touched := w.touched ++ (w.phase.looked.map Prod.fst).filter fun name =>
        w.phase.looked.lookup name ≠ some ((manager.services name).map (·.id)) }

def look : Option Watch :=
  match w.phase with
  | .probing looked answers => (w.monitor.cfg.Members.drop looked.length).head?.map fun name =>
    { w with
      phase := .probing (looked ++ [(name, w.registered name)]) answers
      touched := w.touched.filter (· ≠ name) }
  | _ => none

/-- A member that does not run is not probed. -/
def answer (name : String) (running : Bool) (result : routeProbeResult) : Option Watch :=
  match w.phase with
  | .probing looked answers =>
    if (answers.lookup name).isSome then none
    else (looked.lookup name).map fun service =>
      { w with
        phase := .probing looked
          (answers ++ [(name, if service.isSome ∧ running then result else notRunning)]) }
  | _ => none

/-- The context is done before all answers are in. -/
def leave : Option Watch :=
  match w.phase with
  | .probing looked _ =>
    if looked.length = w.monitor.cfg.Members.length ∧ w.monitor.cancelled then
      some { w with phase := .idle }
    else none
  | _ => none

def lock : Option Watch :=
  match w.phase with
  | .probing looked answers =>
    if w.monitor.cfg.Members.all fun name => (answers.lookup name).isSome then
      some { w with phase := .checking looked answers w.monitor.cfg.Members [] [] }
    else none
  | _ => none

/-- The round is given up at the first member whose instance changed. -/
def check (running : Bool) : Option Watch :=
  match w.phase with
  | .checking looked answers (name :: todo) results available =>
    match looked.lookup name, answers.lookup name with
    | some service, some result =>
      if w.registered name ≠ service then some { w with phase := .idle }
      else some { w with
        monitor := w.monitor.renew name service
        phase := .checking looked answers todo (results ++ [(name, result)])
          (if running ∧ (w.manager.services name).any (!·.cfg.Disabled) then available ++
            [name] else available) }
    | _, _ => none
  | _ => none

/-- The results are a map, ranged over in any order. -/
def apply (order : List (String × routeProbeResult)) (now : Int) : Option Watch :=
  match w.phase with
  | .checking looked _ [] results available =>
    if order.isPerm results then
      some { w with
        monitor := w.monitor.applyRound order available now
        phase := .idle
        commits := if w.monitor.cancelled then w.commits else w.commits ++
          [⟨looked, w.registered, order, available, now⟩] }
    else none
  | _ => none

def step : Event → Option Watch
  | .manager event => w.manage h event
  | .preferred available now =>
    if available.isSublist w.monitor.cfg.Members then
      some { w with monitor := w.monitor.preferred available now }
    else none
  | .cancel => some { w with monitor := w.monitor.cancel }
  | .start => match w.phase with
    | .idle => some { w with phase := .probing [] [], touched := [] }
    | _ => none
  | .look => w.look
  | .answer name running result => w.answer name running result
  | .leave => w.leave
  | .lock => w.lock
  | .check running => w.check running
  | .apply order now => w.apply order now

end Watch

/-- A new monitor over a manager in any state that it reaches. -/
def watching (h : Host) (cfg : RouteConfig) : System Watch Watch.Event where
  start w := ∃ manager, (Manager.system h).Reachable manager ∧
    w = ⟨manager, newRouteQualityMonitor cfg, .idle, [], []⟩
  step w := w.step h

/-- The instance of a member is not the one that the round looked up, or was not at some moment
since; a member that had none and has none again has no instance that changed. -/
def Watch.Changed (w : Watch) (name : String) : Prop :=
  ∃ service, w.phase.looked.lookup name = some service ∧
    (w.registered name ≠ service ∨ service ≠ none ∧ name ∈ w.touched)

/-- All that happens to the monitor is that states of members with another instance start over. -/
def OnlyResets (registered : String → Option Nat) (q q' : routeQualityMonitor) : Prop :=
  ∃ states, q' = { q with states } ∧ ∀ name, states name = q.states name ∨
    ∃ s, q.states name = some s ∧ s.service ≠ registered name ∧
      states name = some (evaluating (registered name))

/-! What each step keeps. -/

/-- The state of a member is made of the rounds committed since it started over, all of which
examined the instance that it is about, and which was registered when they were committed. -/
def Sourced (commits : List Commit) (name : String) (s : routeMemberQualityState) : Prop :=
  ∃ since, since <:+ commits ∧
    (∀ c ∈ since, c.looked.lookup name = some s.service ∧ c.registered name = s.service ∧
      (c.results.lookup name).isSome = true) ∧
    s = since.foldl (Commit.update name) (evaluating s.service)

/-- The members checked so far have the instance that was looked up, and their states are about it. -/
structure Checked (cfg : RouteConfig) (w : Watch) (looked : List (String × Option Nat))
    (todo : List String) (results : List (String × routeProbeResult))
    (available : List String) : Prop where
  members : results.map Prod.fst ++ todo = cfg.Members
  available : available.Sublist (results.map Prod.fst)
  same : ∀ name ∈ results.map Prod.fst, looked.lookup name = some (w.registered name) ∧
    ∃ s, w.monitor.states name = some s ∧ s.service = w.registered name

structure Watch.Sound (h : Host) (cfg : RouteConfig) (w : Watch) : Prop where
  manager : Manager.Sound h w.manager
  monitor : routeQualityMonitor.Sound cfg w.monitor
  looked : w.phase.looked.map Prod.fst <+: cfg.Members
  seen : ∀ name id, w.phase.looked.lookup name = some (some id) →
    id < w.manager.next ∧ (name ∈ w.touched → w.registered name ≠ some id)
  checked : ∀ {looked answers todo results available},
    w.phase = .checking looked answers todo results available →
    Checked cfg w looked todo results available
  sourced : ∀ {name s}, w.monitor.states name = some s → Sourced w.commits name s

theorem ensureCurrentLocked_states (available : List String) (now : Int) (q : routeQualityMonitor) :
    (q.ensureCurrentLocked available now).states = q.states := by
  rcases ensureCurrentLocked_cases available now q with ⟨same, _⟩ | ⟨_, name, reason, _, _, chosen⟩
  · rw [same]
  · rw [chosen, chooseLocked_states]

theorem applyPriorityLocked_states (available : List String) (cur : routeMemberQualityState) (now : Int)
    (q : routeQualityMonitor) : (q.applyPriorityLocked available cur now).states = q.states := by
  unfold applyPriorityLocked
  split
  · exact chooseLocked_states ..
  split
  · rfl
  split
  · exact chooseLocked_states ..
  · rfl

theorem applyQualityLocked_states (available : List String) (cur : routeMemberQualityState) (now : Int)
    (q : routeQualityMonitor) : (q.applyQualityLocked available cur now).states = q.states := by
  unfold applyQualityLocked
  split
  · exact chooseLocked_states ..
  split
  · rfl
  dsimp only
  split
  · exact chooseLocked_states ..
  · rfl

/-- Choosing a member does not touch the states. -/
theorem applyRound_states {q : routeQualityMonitor} (live : q.cancelled = false)
    (results : List (String × routeProbeResult)) (available : List String) (now : Int) :
    (q.applyRound results available now).states = (q.updated results available now).states := by
  rw [applyRound, if_neg (by simp [live])]
  have repaired := ensureCurrentLocked_states available now (q.updated results available now)
  dsimp only
  split
  · exact repaired
  split
  · exact repaired
  split
  · exact (applyPriorityLocked_states ..).trans repaired
  · exact (applyQualityLocked_states ..).trans repaired

/-- The states after a committed round. -/
theorem applyRound_states_eq {q : routeQualityMonitor} (live : q.cancelled = false) {c : Commit}
    (distinct : (c.results.map Prod.fst).Nodup) (name : String) :
    (q.applyRound c.results c.available c.now).states name =
      (q.states name).map fun s => c.update name s := by
  rw [applyRound_states live]
  exact foldl_applyResult_states _ c.now c.results distinct _ name

theorem update_service (c : Commit) (name : String) (s : routeMemberQualityState) :
    (c.update name s).service = s.service := by
  unfold Commit.update
  cases c.results.lookup name with
  | none => rfl
  | some r =>
    simp only [Option.map_some, Option.getD_some, updateMember, countResult, slideWindow, noteResult]
    split_ifs <;> rfl

theorem Sourced.commit {commits : List Commit} {name : String} {s : routeMemberQualityState}
    (sourced : Sourced commits name s) {c : Commit} (looked : c.looked.lookup name = some s.service)
    (registered : c.registered name = s.service) (present : (c.results.lookup name).isSome = true) :
    Sourced (commits ++ [c]) name (c.update name s) := by
  obtain ⟨since, ends, examined, made⟩ := sourced
  obtain ⟨earlier, rfl⟩ := ends
  refine ⟨since ++ [c], ⟨earlier, (List.append_assoc ..).symm⟩, fun c' member => ?_, ?_⟩
  · rw [update_service]
    rcases List.mem_append.mp member with old | new
    · exact examined c' old
    · rw [List.mem_singleton.mp new]
      exact ⟨looked, registered, present⟩
  · rw [update_service, List.foldl_append, ← made]
    rfl

theorem sourced_evaluating (commits : List Commit) (name : String) (service : Option Nat) :
    Sourced commits name (evaluating service) :=
  ⟨[], List.nil_suffix, fun _ member => absurd member List.not_mem_nil, rfl⟩

theorem renew_cases (name : String) (service : Option Nat) (q : routeQualityMonitor) :
    q.renew name service = q ∧ (∀ s, q.states name = some s → s.service = service) ∨
      q.renew name service = q.rebuild name service ∧ ∃ s, q.states name = some s ∧
        s.service ≠ service := by
  unfold renew
  split
  · rename_i missing
    exact Or.inl ⟨rfl, fun s present => by rw [missing] at present; contradiction⟩
  · rename_i s present
    split
    · rename_i differ
      exact Or.inr ⟨rfl, s, present, differ⟩
    · rename_i same
      refine Or.inl ⟨rfl, fun s' found => ?_⟩
      rw [present] at found
      rw [← Option.some.inj found]
      exact not_not.mp same

theorem renew_states (name : String) (service : Option Nat) (q : routeQualityMonitor) (other : String) :
    (q.renew name service).states other = q.states other ∨
      other = name ∧ (∃ s, q.states name = some s ∧ s.service ≠ service) ∧
        (q.renew name service).states other = some (evaluating service) := by
  rcases renew_cases name service q with ⟨same, _⟩ | ⟨reset, differ⟩
  · exact Or.inl (by rw [same])
  · by_cases here : other = name
    · refine Or.inr ⟨here, differ, ?_⟩
      rw [reset, here]
      exact Function.update_self ..
    · rw [reset]
      exact Or.inl (Function.update_of_ne here ..)

/-- Afterwards the state is about the instance. -/
theorem renew_service {name : String} {service : Option Nat} {q : routeQualityMonitor}
    (member : (q.states name).isSome = true) :
    ∃ s, (q.renew name service).states name = some s ∧ s.service = service := by
  obtain ⟨s, present⟩ := Option.isSome_iff_exists.mp member
  rcases renew_cases name service q with ⟨same, about⟩ | ⟨reset, _⟩
  · exact ⟨s, by rw [same, present], about s present⟩
  · exact ⟨evaluating service, by rw [reset]; exact Function.update_self .., rfl⟩

section steps

variable {h : Host} {cfg : RouteConfig} {w w' : Watch}

/-- A step that leaves the round where it is, and the states as they are. -/
theorem Watch.Sound.of_states (sound : w.Sound h cfg) {q : routeQualityMonitor}
    (config : q.cfg = w.monitor.cfg) (states : q.states = w.monitor.states) :
    Watch.Sound h cfg { w with monitor := q } where
  manager := sound.manager
  monitor := sound.monitor.of_states config states
  looked := sound.looked
  seen := sound.seen
  checked phase :=
    let checked := sound.checked phase
    ⟨checked.members, checked.available, fun name member => by
      rw [show ({ w with monitor := q } : Watch).monitor.states = _ from states]
      exact checked.same name member⟩
  sourced present := sound.sourced (by rw [← states]; exact present)

/-- A round that is over. -/
theorem Watch.Sound.ended (sound : w.Sound h cfg) : Watch.Sound h cfg { w with phase := .idle } where
  manager := sound.manager
  monitor := sound.monitor
  looked := List.nil_prefix
  seen _ _ found := by simp [Phase.looked] at found
  checked phase := by simp at phase
  sourced := sound.sourced

theorem Watch.Sound.manage (sound : w.Sound h cfg) {event : Manager.Event}
    (next : w.manage h event = some w') :
    w'.Sound h cfg := by
  unfold Watch.manage at next
  split at next
  · contradiction
  · rename_i unlocked
    obtain ⟨manager, moved, rfl⟩ := Option.map_eq_some_iff.mp next
    obtain ⟨later, renewed⟩ := Manager.renewed_step moved
    refine ⟨Manager.sound_step sound.manager event moved, sound.monitor, sound.looked,
      fun name id found => ?_, fun {looked answers todo results available} phase =>
      absurd phase (unlocked looked answers todo results available), sound.sourced⟩
    obtain ⟨made, kept⟩ := sound.seen name id found
    refine ⟨Nat.lt_of_lt_of_le made later, fun touched again => ?_⟩
    rcases List.mem_append.mp touched with old | new
    · -- the instance that is registered now was registered then, or is too young
      obtain ⟨s, present, same⟩ := Option.map_eq_some_iff.mp again
      rcases renewed name s present with before | young
      · exact kept old (by rw [Watch.registered, before, ← same]; rfl)
      · exact absurd made (Nat.not_lt.mpr (same ▸ young))
    · have differ := (List.mem_filter.mp new).2
      simp only [ne_eq, decide_not, Bool.not_eq_true', decide_eq_false_iff_not] at differ
      exact differ (found.trans (congrArg some again.symm))

theorem Watch.Sound.look (sound : w.Sound h cfg) (next : w.look = some w') : w'.Sound h cfg := by
  unfold Watch.look at next
  split at next
  · rename_i looked answers phase
    obtain ⟨name, first, rfl⟩ := Option.map_eq_some_iff.mp next
    have names := sound.looked
    have seen := sound.seen
    simp only [phase, Phase.looked] at names seen
    refine ⟨sound.manager, sound.monitor, ?_, fun other id found => ?_,
      fun phase => by simp at phase, sound.sourced⟩
    · obtain ⟨rest, whole⟩ := names
      rw [sound.monitor.config, ← whole, List.drop_left' (List.length_map _)] at first
      obtain ⟨rest', rfl⟩ := List.head?_eq_some_iff.mp first
      refine ⟨rest', ?_⟩
      simp only [Phase.looked, List.map_append, List.map_cons, List.map_nil, List.append_assoc]
      exact whole
    · simp only [Phase.looked, List.lookup_append, Option.or_eq_some_iff] at found
      rcases found with old | ⟨_, new⟩
      · obtain ⟨made, kept⟩ := seen other id old
        exact ⟨made, fun touched => kept (List.mem_filter.mp touched).1⟩
      · rw [List.lookup_cons] at new
        split at new
        · rename_i here
          have same : other = name := beq_iff_eq.mp here
          obtain ⟨s, present, id_eq⟩ := Option.map_eq_some_iff.mp (Option.some.inj new)
          refine ⟨id_eq ▸ (sound.manager.registered present not_false).made, fun touched => ?_⟩
          simp [same] at touched
        · simp at new
  · contradiction

theorem Watch.Sound.answer (sound : w.Sound h cfg) {name : String} {running : Bool}
    {result : routeProbeResult}
    (next : w.answer name running result = some w') : w'.Sound h cfg := by
  unfold Watch.answer at next
  split at next
  · rename_i looked answers phase
    split at next
    · contradiction
    obtain ⟨service, _, rfl⟩ := Option.map_eq_some_iff.mp next
    have names := sound.looked
    have seen := sound.seen
    simp only [phase, Phase.looked] at names seen
    exact ⟨sound.manager, sound.monitor, names, seen, fun phase => by simp at phase, sound.sourced⟩
  · contradiction

theorem Watch.Sound.lock (sound : w.Sound h cfg) (next : w.lock = some w') : w'.Sound h cfg := by
  unfold Watch.lock at next
  split at next
  · rename_i looked answers phase
    simp only [Option.ite_none_right_eq_some, Option.some.injEq] at next
    obtain ⟨_, rfl⟩ := next
    have names := sound.looked
    have seen := sound.seen
    simp only [phase, Phase.looked] at names seen
    refine ⟨sound.manager, sound.monitor, names, seen, fun phase => ?_, sound.sourced⟩
    simp only [Phase.checking.injEq] at phase
    obtain ⟨_, _, rfl, rfl, rfl⟩ := phase
    exact ⟨sound.monitor.config ▸ rfl, List.Sublist.refl _, fun _ member => by simp at member⟩
  · contradiction

theorem Watch.Sound.check (sound : w.Sound h cfg) {running : Bool} (next : w.check running = some w') :
    w'.Sound h cfg := by
  unfold Watch.check at next
  split at next
  · rename_i looked answers name todo results available phase
    split at next
    · rename_i service result found answered
      split at next
      · rw [← Option.some.inj next]
        exact sound.ended
      · rename_i same
        have registered : w.registered name = service := not_not.mp same
        subst registered
        rw [← Option.some.inj next]
        have names := sound.looked
        have seen := sound.seen
        simp only [phase, Phase.looked] at names seen
        have checked := sound.checked phase
        have member : name ∈ cfg.Members := by
          rw [← checked.members]
          exact List.mem_append_right _ List.mem_cons_self
        have renewed : ∃ s, (w.monitor.renew name (w.registered name)).states name = some s ∧
            s.service = w.registered name := renew_service ((sound.monitor.members name).mpr member)
        refine ⟨sound.manager, ?_, names, seen, fun phase => ?_, fun {other s} present => ?_⟩
        · rcases renew_cases name (w.registered name) w.monitor with ⟨kept, _⟩ | ⟨reset, _⟩
          · simp only [kept]
            exact sound.monitor
          · have valid : (Event.rebuild name (w.registered name)).Valid cfg := member
            simp only [reset]
            exact sound.monitor.step valid
        · simp only [Phase.checking.injEq] at phase
          obtain ⟨rfl, _, rfl, rfl, rfl⟩ := phase
          refine ⟨?_, ?_, fun other done => ?_⟩
          · rw [← checked.members, List.map_append, List.append_assoc]
            rfl
          · rw [List.map_append]
            split
            · exact checked.available.append (List.Sublist.refl _)
            · exact checked.available.trans (List.sublist_append_left _ _)
          · rw [List.map_append, List.mem_append] at done
            rcases done with old | new
            · obtain ⟨looked_eq, s, present, about⟩ := checked.same other old
              refine ⟨looked_eq, ?_⟩
              rcases renew_states name (w.registered name) w.monitor other with kept | ⟨rfl, _, _⟩
              · exact ⟨s, kept.trans present, about⟩
              · exact renewed
            · obtain rfl : other = name := List.mem_singleton.mp new
              exact ⟨found, renewed⟩
        · rcases renew_states name (w.registered name) w.monitor other with kept | ⟨_, _, reset⟩
          · exact sound.sourced (kept.symm.trans present)
          · rw [← Option.some.inj (reset.symm.trans present)]
            exact sourced_evaluating _ _ _
    · contradiction
  · contradiction

theorem Watch.Sound.apply (sound : w.Sound h cfg) {order : List (String × routeProbeResult)} {now : Int}
    (next : w.apply order now = some w') : w'.Sound h cfg := by
  unfold Watch.apply at next
  split at next
  · rename_i looked answers results available phase
    simp only [Option.ite_none_right_eq_some, Option.some.injEq] at next
    obtain ⟨perm, rfl⟩ := next
    have checked := sound.checked phase
    have members : results.map Prod.fst = cfg.Members := by
      rw [← checked.members, List.append_nil]
    have keys : (order.map Prod.fst).Perm cfg.Members := members ▸ (List.isPerm_iff.mp perm).map Prod.fst
    have distinct : (order.map Prod.fst).Nodup := keys.nodup_iff.mpr cfg.distinct
    refine ⟨sound.manager, sound.monitor.applyRound distinct available now, List.nil_prefix,
      fun _ _ found => by
        simp [Phase.looked] at found, fun phase => by simp at phase, fun {name s} present => ?_⟩
    rcases cancelled : w.monitor.cancelled with _ | _
    · let c : Commit := ⟨looked, w.registered, order, available, now⟩
      rw [applyRound_states_eq (c := c) cancelled distinct name] at present
      obtain ⟨s, before, rfl⟩ := Option.map_eq_some_iff.mp present
      have member : name ∈ cfg.Members := (sound.monitor.members name).mp (by rw [before]; rfl)
      obtain ⟨looked_eq, s', before', about⟩ := checked.same name (members ▸ member)
      obtain rfl : s = s' := Option.some.inj (before.symm.trans before')
      simp only [Bool.false_eq_true, if_false]
      refine (sound.sourced before).commit (looked_eq.trans (congrArg some about.symm)) about.symm ?_
      obtain ⟨answered, found, rfl⟩ := List.mem_map.mp (keys.mem_iff.mpr member)
      exact List.lookup_isSome_iff.mpr ⟨answered, found, beq_self_eq_true _⟩
    · rw [applyRound, if_pos cancelled] at present
      simp only [if_true]
      exact sound.sourced present
  · contradiction

theorem Watch.Sound.step (sound : w.Sound h cfg) (event : Watch.Event)
    (next : w.step h event = some w') :
    w'.Sound h cfg := by
  cases event with
  | manager event => exact sound.manage next
  | preferred available now =>
    simp only [Watch.step, Option.ite_none_right_eq_some, Option.some.injEq] at next
    rw [← next.2]
    refine sound.of_states ?_ (ensureCurrentLocked_states available now w.monitor)
    exact (sound.monitor.ensureCurrentLocked available now).config.trans sound.monitor.config.symm
  | cancel =>
    rw [← Option.some.inj next]
    exact sound.of_states rfl rfl
  | start =>
    simp only [Watch.step] at next
    split at next
    · rw [← Option.some.inj next]
      exact ⟨sound.manager, sound.monitor, List.nil_prefix, fun _ _ found =>
        by simp [Phase.looked] at found, fun phase => by simp at phase, sound.sourced⟩
    · contradiction
  | look => exact sound.look next
  | answer name running result => exact sound.answer next
  | leave =>
    simp only [Watch.step, Watch.leave] at next
    split at next
    · simp only [Option.ite_none_right_eq_some, Option.some.injEq] at next
      rw [← next.2]
      exact sound.ended
    · contradiction
  | lock => exact sound.lock next
  | check running => exact sound.check next
  | apply order now => exact sound.apply next

theorem sound_of_watching (reachable : (watching h cfg).Reachable w) : w.Sound h cfg := by
  refine reachable.invariant (Watch.Sound h cfg) ?_ fun w event w' sound next => sound.step event next
  rintro w ⟨manager, reached, rfl⟩
  refine ⟨Manager.sound_of_reachable reached, sound_new cfg, List.nil_prefix,
    fun _ _ found => by
      simp [Phase.looked] at found, fun phase => by simp at phase, fun {name s} present => ?_⟩
  simp only [newRouteQualityMonitor, Option.ite_none_right_eq_some, Option.some.injEq] at present
  rw [← present.2]
  exact sourced_evaluating [] name none

end steps

theorem OnlyResets.refl (registered : String → Option Nat)
    (q : routeQualityMonitor) : OnlyResets registered q q :=
  ⟨q.states, rfl, fun _ => Or.inl rfl⟩

theorem onlyResets_renew (registered : String → Option Nat) (name : String) (q : routeQualityMonitor) :
    OnlyResets registered q (q.renew name (registered name)) := by
  refine ⟨(q.renew name (registered name)).states, ?_, fun other => ?_⟩
  · rcases renew_cases name (registered name) q with ⟨same, _⟩ | ⟨reset, _⟩
    · rw [same]
    · rw [reset]
      rfl
  · rcases renew_states name (registered name) q other with kept | ⟨rfl, ⟨s, present, differ⟩, reset⟩
    · exact Or.inl kept
    · exact Or.inr ⟨s, present, differ, reset⟩

/-- At its last step a round finds every member as it was looked up. -/
theorem Watch.Sound.unchanged {h : Host} {cfg : RouteConfig} {w : Watch} (sound : w.Sound h cfg)
    {looked : List (String × Option Nat)} {answers results : List (String × routeProbeResult)}
    {available : List String} (phase : w.phase = .checking looked answers [] results available)
    (name : String) : ¬ w.Changed name := by
  rintro ⟨service, found, changed⟩
  have checked := sound.checked phase
  have names := sound.looked
  have seen := sound.seen name
  simp only [phase, Phase.looked] at found names seen
  have member : name ∈ cfg.Members := by
    obtain ⟨entry, listed, here⟩ :=
      List.lookup_isSome_iff.mp (by rw [found]; rfl : (looked.lookup name).isSome = true)
    rw [beq_iff_eq.mp here]
    exact names.subset (List.mem_map_of_mem listed)
  rw [← checked.members, List.append_nil] at member
  obtain ⟨looked_eq, _⟩ := checked.same name member
  obtain rfl : service = w.registered name := Option.some.inj (found.symm.trans looked_eq)
  rcases changed with differ | ⟨present, touched⟩
  · exact differ rfl
  · obtain ⟨id, some_id⟩ := Option.ne_none_iff_exists'.mp present
    rw [some_id] at found
    exact (seen id found).2 touched some_id

/-- Before its last step a round does no more than let states start over. -/
theorem onlyResets_step {h : Host} {w w' : Watch} {event : Watch.Event} (byRound : event.ByRound)
    (next : w.step h event = some w') (early : ∀ order now, event ≠ .apply order now) :
    OnlyResets w.registered w.monitor w'.monitor := by
  cases event with
  | manager event => exact byRound.elim
  | preferred available now => exact byRound.elim
  | cancel => exact byRound.elim
  | start =>
    simp only [Watch.step] at next
    split at next
    · rw [← Option.some.inj next]
      exact OnlyResets.refl _ _
    · contradiction
  | look =>
    simp only [Watch.step, Watch.look] at next
    split at next
    · obtain ⟨name, _, rfl⟩ := Option.map_eq_some_iff.mp next
      exact OnlyResets.refl _ _
    · contradiction
  | answer name running result =>
    simp only [Watch.step, Watch.answer] at next
    split at next
    · split at next
      · contradiction
      · obtain ⟨service, _, rfl⟩ := Option.map_eq_some_iff.mp next
        exact OnlyResets.refl _ _
    · contradiction
  | leave =>
    simp only [Watch.step, Watch.leave] at next
    split at next
    · simp only [Option.ite_none_right_eq_some, Option.some.injEq] at next
      rw [← next.2]
      exact OnlyResets.refl _ _
    · contradiction
  | lock =>
    simp only [Watch.step, Watch.lock] at next
    split at next
    · simp only [Option.ite_none_right_eq_some, Option.some.injEq] at next
      rw [← next.2]
      exact OnlyResets.refl _ _
    · contradiction
  | check running =>
    simp only [Watch.step, Watch.check] at next
    split at next
    · split at next
      · split at next
        · rw [← Option.some.inj next]
          exact OnlyResets.refl _ _
        · rename_i same
          rw [← Option.some.inj next, ← not_not.mp same]
          exact onlyResets_renew w.registered _ w.monitor
      · contradiction
    · contradiction
  | apply order now => exact absurd rfl (early order now)

/-- The last step of a round that was cancelled changes nothing, and there is none when a member
changed. -/
theorem Watch.Sound.apply_given_up {h : Host} {cfg : RouteConfig} {w w' : Watch} (sound : w.Sound h cfg)
    {order : List (String × routeProbeResult)} {now : Int} (next : w.step h (.apply order now) = some w')
    (given_up : w.monitor.cancelled = true ∨ ∃ name, w.Changed name) : w'.monitor = w.monitor := by
  simp only [Watch.step, Watch.apply] at next
  split at next
  · rename_i looked answers results available phase
    simp only [Option.ite_none_right_eq_some, Option.some.injEq] at next
    rw [← next.2]
    rcases given_up with cancelled | ⟨name, changed⟩
    · simp only [applyRound, cancelled, if_true]
    · exact absurd changed (sound.unchanged phase name)
  · contradiction

/-- Along every run, whatever the monitor holds about a member comes from committed rounds that
examined the instance it is about, which was then the registered one. A step of a round does no
more than let states start over, unless it commits a round that is not cancelled and none of
whose members changed. -/
theorem results_stay_with_instance (h : Host) (cfg : RouteConfig) {w : Watch}
    (reachable : (watching h cfg).Reachable w) :
    (∀ name s, w.monitor.states name = some s → Sourced w.commits name s) ∧
    ∀ event w', event.ByRound → w.step h event = some w' →
      ((∃ order now, event = .apply order now) → w.monitor.cancelled = true ∨ ∃ name, w.Changed name) →
      OnlyResets w.registered w.monitor w'.monitor := by
  have sound := sound_of_watching reachable
  constructor
  · intro name s present
    exact sound.sourced present
  · intro event w' byRound next given_up
    by_cases last : ∃ order now, event = .apply order now
    · obtain ⟨order, now, rfl⟩ := last
      rw [sound.apply_given_up next (given_up ⟨order, now, rfl⟩)]
      exact OnlyResets.refl _ _
    · apply onlyResets_step byRound next
      intro order now apply_event
      exact last ⟨order, now, apply_event⟩

def oneMember : RouteConfig := ⟨["a"], .quality, by decide, by decide⟩

def probedWell : routeProbeResult := ⟨.normal, 3, "", "ok"⟩

/-- A round that finds its member well. -/
def oneRound : List Watch.Event :=
  [.start, .look, .answer "a" true probedWell, .lock, .check true, .apply [("a", probedWell)] 5]

theorem one_round_sourced :
    ∃ w, (watching Manager.loopback oneMember).Reachable w ∧ w.commits.length = 1 ∧
    ∃ s, w.monitor.states "a" = some s ∧ s.Samples = 1 ∧ s.service = some 0 ∧
      Sourced w.commits "a" s := by
  let w₀ : Watch :=
    ⟨Manager.startedWith (Manager.tunnel "7001"), newRouteQualityMonitor oneMember, .idle, [], []⟩
  have seen : ((watching Manager.loopback oneMember).play (fun _ _ => true) oneRound w₀).map (fun w =>
      (w.commits.length, (w.monitor.states "a").map fun s => (s.Samples, s.service))) =
        some (1, some (1, some 0)) := by
    decide +kernel
  obtain ⟨w, played, values⟩ := Option.map_eq_some_iff.mp seen
  obtain ⟨length, state⟩ := Prod.mk.inj values
  obtain ⟨s, present, state⟩ := Option.map_eq_some_iff.mp state
  obtain ⟨samples, service⟩ := Prod.mk.inj state
  have reachable : (watching Manager.loopback oneMember).Reachable w :=
    System.Reachable.of_play ⟨_, Manager.startedWith_reachable _, rfl⟩ played
  exact ⟨w, reachable, length, s, present, samples, service,
    (results_stay_with_instance Manager.loopback oneMember reachable).1 "a" s present⟩

end routeQualityMonitor
end Gotun.Tun
