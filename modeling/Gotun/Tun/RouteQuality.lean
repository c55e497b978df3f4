import Mathlib.Algebra.Order.Group.Nat
import Mathlib.Data.List.Nodup
import Mathlib.Logic.Function.Basic
import Mathlib.Tactic.Basic

/-! `tun/route_quality.go`: the monitor that probes the full path of every member of a route,
keeps counters and a window of bad samples for each, and chooses the member that new
connections prefer. Times are nanoseconds since the zero time. -/

namespace Gotun.Tun

def routeQualityWindow : Nat := 20

/-- Sixty seconds. -/
def cooldown : Int := 60 * 1000000000

def routeSwitchLogMax : Nat := 20

inductive Policy where
  | priority
  | quality
  deriving DecidableEq, Repr

/-- The part of a checked `RouteConfig` in use: no member is blank or listed twice. -/
structure RouteConfig where
  Members : List String
  Policy : Policy
  distinct : Members.Nodup
  named : "" ∉ Members

inductive ProbeStatus where
  | normal
  | slow
  | failed
  deriving DecidableEq, Repr

inductive MemberStatus where
  | evaluating
  | probed (status : ProbeStatus)
  | common
  deriving DecidableEq, Repr

structure routeProbeResult where
  status : ProbeStatus
  durationMS : Int
  err : String
  connectivity : String
  deriving DecidableEq, Repr

structure RouteMemberQuality where
  Status : MemberStatus
  Samples : Nat
  BadSamples : Nat
  ConsecutiveFailures : Nat
  ConsecutiveNormal : Nat
  LastDurationMS : Int
  LastError : String
  Connectivity : String
  LastProbeAt : Int
  deriving DecidableEq, Repr

/-- `service` is the instance that the samples are about. -/
structure routeMemberQualityState extends RouteMemberQuality where
  window : List Bool
  service : Option Nat
  deriving DecidableEq, Repr

def evaluating (service : Option Nat) : routeMemberQualityState :=
  ⟨⟨.evaluating, 0, 0, 0, 0, 0, "", "", 0⟩, [], service⟩

/-- Why a member was chosen. -/
inductive Reason where
  | noneRunning
  | firstRunning
  | reliable
  | failover (failures normal : Nat)
  | recovery (normal : Nat)
  | fault (failures normal : Nat)
  | better (before after : Nat)
  deriving DecidableEq, Repr

def Reason.text : Reason → String
  | .noneRunning => "没有运行中的 member"
  | .firstRunning => "按成员顺序选择运行中的线路"
  | .reliable => "原成员不可用，按优先级选择连续正常的线路"
  | .failover failures normal => s!"故障转移：当前连续失败 {failures} 次，备用连续正常 {normal} 次，按优先级选择"
  | .recovery normal => s!"优先级恢复回切：高优先级线路连续正常 {normal} 次，切换冷却已满 60 秒"
  | .fault failures normal => s!"故障切换：当前连续失败 {failures} 次，备用连续正常 {normal} 次"
  | .better before after => s!"质量切换：最近 20 次不良由 {before} 次降为 {after} 次"

/-- Switches of `applyPriorityLocked` and `applyQualityLocked`, as opposed to the repairs of
`ensureCurrentLocked`. -/
def Reason.ByPolicy : Reason → Prop
  | .noneRunning | .firstRunning | .reliable => False
  | _ => True

def Reason.IsFault : Reason → Prop
  | .failover _ _ | .fault _ _ => True
  | _ => False

structure RouteSwitchEvent where
  From : String
  To : String
  Reason : String
  deriving DecidableEq, Repr

/-- A switch with the round and the time it was made in. -/
structure Switch where
  round : Nat
  time : Int
  target : String
  reason : Reason
  deriving DecidableEq, Repr

/-- A record of the probe history. -/
structure ProbeRecord where
  service : Nat
  Time : Int
  Status : MemberStatus
  DurationMS : Int
  Connectivity : String
  Error : String
  deriving DecidableEq, Repr

/-- `log` keeps the latest events only; `switches` and `rounds` are all switches and the number
of rounds so far, for the proofs. `history` is what the monitor gave the probe history. -/
structure routeQualityMonitor where
  cfg : RouteConfig
  states : String → Option routeMemberQualityState
  current : String
  lastSwitch : Int
  log : List RouteSwitchEvent
  cancelled : Bool
  history : List ProbeRecord
  rounds : Nat
  switches : List Switch

def newRouteQualityMonitor (cfg : RouteConfig) : routeQualityMonitor where
  cfg := cfg
  states name := if name ∈ cfg.Members then some (evaluating none) else none
  current := ""
  lastSwitch := 0
  log := []
  cancelled := false
  history := []
  rounds := 0
  switches := []

def recordReason (log : List RouteSwitchEvent) (event : RouteSwitchEvent) : List RouteSwitchEvent :=
  (log ++ [event]).drop ((log ++ [event]).length - routeSwitchLogMax)

namespace routeQualityMonitor

def chooseLocked (name : String) (reason : Reason) (now : Int)
    (q : routeQualityMonitor) : routeQualityMonitor :=
  if name = q.current then q
  else { q with
    log := recordReason q.log ⟨q.current, name, reason.text⟩
    current := name
    lastSwitch := now
    switches := q.switches ++ [⟨q.rounds, now, name, reason⟩] }

def normalOf (q : routeQualityMonitor) (name : String) : Nat :=
  ((q.states name).map (·.ConsecutiveNormal)).getD 0

/-- Two normal probes in a row. -/
def reliable (q : routeQualityMonitor) (name : String) : Bool := 2 ≤ q.normalOf name

/-- The repair when the current member is not among the running ones. -/
def ensureCurrentLocked (available : List String) (now : Int)
    (q : routeQualityMonitor) : routeQualityMonitor :=
  if q.current ∈ available then q
  else match available with
    | [] => q.chooseLocked "" .noneRunning now
    | first :: _ =>
      match q.cfg.Policy, available.find? q.reliable with
      | .priority, some candidate => q.chooseLocked candidate .reliable now
      | _, _ => q.chooseLocked first .firstRunning now

def preferred (available : List String) (now : Int) (q : routeQualityMonitor) : routeQualityMonitor :=
  q.ensureCurrentLocked available now

def noteResult (now : Int) (r : routeProbeResult)
    (s : routeMemberQualityState) : routeMemberQualityState :=
  { s with
    Status := .probed r.status, LastDurationMS := r.durationMS, LastError := r.err,
    Connectivity := r.connectivity, LastProbeAt := now }

/-- A common failure with a working connectivity probe does not count as a failure. -/
def countResult (allFailed : Bool) (r : routeProbeResult)
    (s : routeMemberQualityState) : routeMemberQualityState :=
  if r.status = .failed then
    { s with
      ConsecutiveNormal := 0
      ConsecutiveFailures := if allFailed ∧ r.connectivity = "ok" then 0 else s.ConsecutiveFailures + 1 }
  else
    { s with
      ConsecutiveFailures := 0
      ConsecutiveNormal := if r.status = .normal then s.ConsecutiveNormal + 1 else 0 }

def slideWindow (r : routeProbeResult) (s : routeMemberQualityState) : routeMemberQualityState :=
  let window := s.window ++ [decide (r.status ≠ .normal)]
  let window := if routeQualityWindow < window.length then window.drop 1 else window
  { s with window, Samples := window.length, BadSamples := window.count true }

/-- One member after a round; a common failure does not enter the window. -/
def updateMember (allFailed : Bool) (now : Int) (r : routeProbeResult) (s : routeMemberQualityState) :
    routeMemberQualityState :=
  let s := countResult allFailed r (noteResult now r s)
  if allFailed then { s with Status := .common } else slideWindow r s

/-- Nothing is recorded for a member without an instance. -/
def recordHistory (s : routeMemberQualityState) : List ProbeRecord :=
  match s.service with
  | none => []
  | some service => [⟨service, s.LastProbeAt, s.Status, s.LastDurationMS, s.Connectivity, s.LastError⟩]

def applyResult (allFailed : Bool) (now : Int) (q : routeQualityMonitor)
    (answer : String × routeProbeResult) :
    routeQualityMonitor :=
  match q.states answer.1 with
  | none => q
  | some s =>
    let s := updateMember allFailed now answer.2 s
    { q with
      states := Function.update q.states answer.1 (some s)
      history := q.history ++ recordHistory s }

/-- The switch to a reliable member when the current one has failed three times in a row. -/
def faultSwitch (available : List String) (cur : routeMemberQualityState)
    (q : routeQualityMonitor) : Option String :=
  if 3 ≤ cur.ConsecutiveFailures then available.find? fun name => name ≠ q.current ∧
    q.reliable name else none

def applyPriorityLocked (available : List String) (cur : routeMemberQualityState) (now : Int)
    (q : routeQualityMonitor) : routeQualityMonitor :=
  match q.faultSwitch available cur with
  | some name => q.chooseLocked name (.failover cur.ConsecutiveFailures (q.normalOf name)) now
  | none =>
    if now - q.lastSwitch < cooldown then q
    else match (available.takeWhile (· ≠ q.current)).find? q.reliable with
      | some name => q.chooseLocked name (.recovery (q.normalOf name)) now
      | none => q

def badOf (q : routeQualityMonitor) (name : String) : Nat := ((q.states name).map (·.BadSamples)).getD 0

/-- A full window, and no failure at its end. -/
def eligible (q : routeQualityMonitor) (name : String) : Bool :=
  match q.states name with
  | none => false
  | some s => s.Samples = routeQualityWindow ∧ s.ConsecutiveFailures = 0

/-- The loop over the members for the fewest bad samples. -/
def bestLoop (q : routeQualityMonitor) : List String → String → String
  | [], best => best
  | name :: rest, best =>
    bestLoop q rest (if q.eligible name ∧ q.badOf name < q.badOf best then name else best)

def applyQualityLocked (available : List String) (cur : routeMemberQualityState) (now : Int)
    (q : routeQualityMonitor) : routeQualityMonitor :=
  match q.faultSwitch available cur with
  | some name => q.chooseLocked name (.fault cur.ConsecutiveFailures (q.normalOf name)) now
  | none =>
    if cur.Samples < routeQualityWindow ∨ now - q.lastSwitch < cooldown then q
    else
      let best := q.bestLoop available q.current
      if best ≠ q.current ∧ 3 ≤ (cur.BadSamples : Int) - q.badOf best then
        q.chooseLocked best (.better cur.BadSamples (q.badOf best)) now
      else q

/-- At least two running members, and all of them failed. -/
def commonFailure (results : List (String × routeProbeResult)) (available : List String) : Bool :=
  1 < available.length ∧ ∀ name ∈ available, (results.lookup name).map (·.status) = some .failed

/-- The monitor after the counters of a round are in. -/
def updated (results : List (String × routeProbeResult)) (available : List String) (now : Int)
    (q : routeQualityMonitor) : routeQualityMonitor :=
  results.foldl (applyResult (commonFailure results available) now) { q with rounds := q.rounds + 1 }

def applyRound (results : List (String × routeProbeResult)) (available : List String) (now : Int)
    (q : routeQualityMonitor) : routeQualityMonitor :=
  if q.cancelled then q
  else
    let q := (q.updated results available now).ensureCurrentLocked available now
    match q.states q.current with
    | none => q
    | some cur =>
      if commonFailure results available then q
      else match q.cfg.Policy with
        | .priority => q.applyPriorityLocked available cur now
        | .quality => q.applyQualityLocked available cur now

/-- A member whose instance changed starts over. -/
def rebuild (name : String) (service : Option Nat) (q : routeQualityMonitor) : routeQualityMonitor :=
  { q with states := Function.update q.states name (some (evaluating service)) }

def cancel (q : routeQualityMonitor) : routeQualityMonitor := { q with cancelled := true }

/-! Frame facts: what each part of a round leaves alone. -/

@[simp] theorem chooseLocked_current (name : String) (reason : Reason) (now : Int)
    (q : routeQualityMonitor) :
    (q.chooseLocked name reason now).current = name := by
  unfold chooseLocked
  split_ifs with same
  · exact same.symm
  · rfl

@[simp] theorem chooseLocked_states (name : String) (reason : Reason) (now : Int)
    (q : routeQualityMonitor) :
    (q.chooseLocked name reason now).states = q.states := by
  unfold chooseLocked
  split_ifs <;> rfl

@[simp] theorem chooseLocked_cfg (name : String) (reason : Reason) (now : Int)
    (q : routeQualityMonitor) :
    (q.chooseLocked name reason now).cfg = q.cfg := by
  unfold chooseLocked
  split_ifs <;> rfl

/-- The only thing that a repair can do is choose a member, for a reason of its own. -/
theorem ensureCurrentLocked_cases (available : List String) (now : Int) (q : routeQualityMonitor) :
    q.ensureCurrentLocked available now = q ∧ q.current ∈ available ∨
      q.current ∉ available ∧ ∃ name reason, ¬ reason.ByPolicy ∧ (name = "" ∨ name ∈ available) ∧
        q.ensureCurrentLocked available now = q.chooseLocked name reason now := by
  unfold ensureCurrentLocked
  split_ifs with running
  · exact Or.inl ⟨rfl, running⟩
  · refine Or.inr ⟨running, ?_⟩
    split
    · exact ⟨"", .noneRunning, id, Or.inl rfl, rfl⟩
    · rename_i first rest
      split
      · rename_i candidate _ found
        exact ⟨candidate, .reliable, id, Or.inr (List.mem_of_find?_eq_some found), rfl⟩
      · exact ⟨first, .firstRunning, id, Or.inr List.mem_cons_self, rfl⟩

/-- A round changes the counters of the members it has results for, each by its own result. -/
theorem foldl_applyResult_states (allFailed : Bool) (now : Int)
    (results : List (String × routeProbeResult)) (distinct : (results.map Prod.fst).Nodup)
    (q : routeQualityMonitor) (name : String) :
    (results.foldl (applyResult allFailed now) q).states name =
      (q.states name).map fun s =>
        ((results.lookup name).map fun r => updateMember allFailed now r s).getD s := by
  induction results generalizing q with
  | nil => simp
  | cons answer rest ih =>
    obtain ⟨fresh, distinct⟩ := List.nodup_cons.mp distinct
    rw [List.foldl_cons, ih distinct]
    by_cases same : name = answer.1
    · subst same
      have later : rest.lookup answer.1 = none := by
        rw [List.lookup_eq_none_iff]
        intro other member
        rw [bne_iff_ne]
        intro clash
        exact fresh (clash ▸ List.mem_map_of_mem member)
      rw [List.lookup_cons, beq_self_eq_true, later]
      unfold applyResult
      split
      · rename_i missing
        simp [missing]
      · rename_i s present
        simp [present]
    · have other : (applyResult allFailed now q answer).states name = q.states name := by
        unfold applyResult
        split
        · rfl
        · exact Function.update_of_ne same _ _
      have skip : (answer :: rest).lookup name = rest.lookup name := by
        rw [List.lookup_cons, beq_eq_false_iff_ne.mpr same]
      rw [other, skip]

/-- Besides counters, a round's results only add to the history. -/
theorem foldl_applyResult_frame (allFailed : Bool) (now : Int)
    (results : List (String × routeProbeResult)) (q : routeQualityMonitor) : ∃ states history,
      results.foldl (applyResult allFailed now) q = { q with states, history } := by
  induction results generalizing q with
  | nil => exact ⟨q.states, q.history, rfl⟩
  | cons answer rest ih =>
    obtain ⟨states, history, later⟩ := ih (applyResult allFailed now q answer)
    refine ⟨states, history, ?_⟩
    rw [List.foldl_cons, later]
    unfold applyResult
    split <;> rfl

theorem updated_frame (results : List (String × routeProbeResult)) (available : List String) (now : Int)
    (q : routeQualityMonitor) : ∃ states history,
      q.updated results available now = { q with states, history, rounds := q.rounds + 1 } := by
  obtain ⟨states, history, eq⟩ := foldl_applyResult_frame (commonFailure results available) now results
    { q with rounds := q.rounds + 1 }
  exact ⟨states, history, eq⟩

end routeQualityMonitor

end Gotun.Tun
