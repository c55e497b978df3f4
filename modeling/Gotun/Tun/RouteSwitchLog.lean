import Gotun.Lib.Changes
import Gotun.Lib.Rolling
import Gotun.Tun.RouteSwitch

/-! `tun/route_switch_log.go` and the two users of it: `watchSwitch` of `tun/route.go`, for routes
that follow the health of single hops, and the monitor of a route with full path probes. -/

namespace Gotun.Tun
open Gotun.Lib

/-- The ring of the latest events, the oldest first. -/
abbrev routeSwitchLog := List RouteSwitchEvent

namespace routeSwitchLog

def byHealth : String := "按优先级和健康状态选择"

def record (l : routeSwitchLog) (From To : String) : routeSwitchLog :=
  recordReason l ⟨From, To, byHealth⟩

/-- The newest event comes first. -/
def list (l : routeSwitchLog) : List RouteSwitchEvent := l.reverse

end routeSwitchLog

/-- The local `last` of `watchSwitch`, and the log that it writes to. -/
structure routeWatch where
  last : String
  switchLog : routeSwitchLog
  deriving DecidableEq, Repr

namespace routeWatch

/-- The first selection is an event too, unless there is no member to select. -/
def start (preferred : String) : routeWatch :=
  ⟨preferred, if preferred ≠ "" then routeSwitchLog.record [] "" preferred else []⟩

def tick (w : routeWatch) (cur : String) : routeWatch :=
  if cur ≠ w.last then ⟨cur, w.switchLog.record w.last cur⟩ else w

end routeWatch

/-- The watch after the polls of `preferred` at its start and at each tick. -/
def watchSwitch (first : String) (ticks : List String) : routeWatch :=
  ticks.foldl routeWatch.tick (routeWatch.start first)

def event (c : Change String String) : RouteSwitchEvent := ⟨c.old, c.new, c.note⟩

/-- The switches of a selection that starts empty and is set to each of the choices in turn. -/
def switchesOf (choices : List (String × String)) : List RouteSwitchEvent :=
  (changes "" choices).map event

/-- The log holds the latest of all switches. -/
def Holds (l : routeSwitchLog) (choices : List (String × String)) : Prop :=
  l = (switchesOf choices).rtake routeSwitchLogMax

/-- What a reader of the log may rely on. `choices` are the members that were chosen so far, and
`selected` is the one in use. -/
structure GapFree (l : routeSwitchLog) (choices : List (String × String))
    (selected : String) : Prop where
  latest : l.list = (switchesOf choices).reverse.take routeSwitchLogMax
  count : l.list.length = min routeSwitchLogMax (switchesOf choices).length
  chain : l.list.IsChain fun newer older => newer.From = older.To
  proper : ∀ e ∈ switchesOf choices, e.From ≠ e.To
  oldest : ∀ e ∈ (switchesOf choices).head?, e.From = ""
  newest : (l.list.head?.map RouteSwitchEvent.To).getD "" = selected

theorem Holds.choose {l : routeSwitchLog} {choices : List (String × String)}
    (held : Holds l choices) (name reason : String) :
    Holds (if name = settled "" choices then l else recordReason l ⟨settled "" choices, name, reason⟩)
      (choices ++ [(name, reason)]) := by
  rw [Holds, switchesOf, changes_concat]
  split_ifs with same
  · rw [List.append_nil]
    exact held
  · rw [List.map_append, List.map_singleton, held]
    exact push_rtake ..

theorem Holds.gapFree {l : routeSwitchLog} {choices : List (String × String)} (held : Holds l choices) :
    GapFree l choices (settled "" choices) := by
  have latest : l.list = (switchesOf choices).reverse.take routeSwitchLogMax := by
    rw [routeSwitchLog.list, held, List.rtake_eq_reverse_take_reverse, List.reverse_reverse]
  have chained : (switchesOf choices).IsChain fun older newer => newer.From = older.To := by
    rw [switchesOf, List.isChain_map]
    exact (changes_chain "" choices).imp fun c d same => same.symm
  refine ⟨latest, ?_, ?_, ?_, ?_, ?_⟩
  · rw [latest, List.length_take, List.length_reverse]
  · rw [latest]
    exact (List.isChain_reverse.mpr chained).take _
  · intro e found
    obtain ⟨c, member, rfl⟩ := List.mem_map.mp found
    exact changes_ne "" choices c member
  · intro e found
    rw [switchesOf, List.head?_map, Option.mem_def, Option.map_eq_some_iff] at found
    obtain ⟨c, first, rfl⟩ := found
    exact changes_first "" choices c first
  · rw [latest, List.head?_take, if_neg (by decide), List.head?_reverse, switchesOf,
      List.getLast?_map, Option.map_map, ← changes_last]
    rfl

/-! The watch. -/

/-- The polls as choices: the watch has one reason for all of them. -/
def polled (polls : List String) : List (String × String) := polls.map (·, routeSwitchLog.byHealth)

/-- The watch remembers the latest poll and logs every change. -/
theorem watchSwitch_holds (first : String) (ticks : List String) :
    (watchSwitch first ticks).last = settled "" (polled (first :: ticks)) ∧
      Holds (watchSwitch first ticks).switchLog (polled (first :: ticks)) := by
  induction ticks using List.reverseRecOn with
  | nil =>
    refine ⟨rfl, ?_⟩
    have empty : Holds [] [] := rfl
    have chosen := empty.choose first routeSwitchLog.byHealth
    rw [watchSwitch, List.foldl_nil, routeWatch.start, ite_not]
    exact chosen
  | append_singleton ticks cur ih =>
    obtain ⟨last, held⟩ := ih
    have more : polled (first :: (ticks ++ [cur])) =
        polled (first :: ticks) ++ [(cur, routeSwitchLog.byHealth)] := by
      rw [polled, ← List.cons_append, List.map_append]
      rfl
    have chosen := held.choose cur routeSwitchLog.byHealth
    have step : watchSwitch first (ticks ++ [cur]) = (watchSwitch first ticks).tick cur :=
      List.foldl_concat ..
    rw [more, step, routeWatch.tick, ite_not, settled_concat]
    rw [← last] at chosen
    split_ifs at chosen ⊢ with same
    · exact ⟨same.symm, chosen⟩
    · exact ⟨rfl, chosen⟩

/-! The monitor. -/

namespace routeQualityMonitor

/-- The members chosen so far, each with the text of its reason. -/
def choices (q : routeQualityMonitor) : List (String × String) :=
  q.switches.map fun s => (s.target, s.reason.text)

/-- The invariant: the selection is the last choice, and the log holds the latest of all switches. -/
structure Logged (q : routeQualityMonitor) : Prop where
  selected : q.current = settled "" q.choices
  held : Holds q.log q.choices

variable {q : routeQualityMonitor}

theorem Logged.chooseLocked (logged : Logged q) (name : String) (reason : Reason) (now : Int) :
    Logged (q.chooseLocked name reason now) := by
  have chosen := logged.held.choose name reason.text
  rw [← logged.selected] at chosen
  rw [routeQualityMonitor.chooseLocked]
  split_ifs at chosen ⊢ with same
  · exact logged
  · refine ⟨?_, ?_⟩
    · rw [choices, List.map_append]
      exact (settled_concat ..).symm
    · rw [choices, List.map_append]
      exact chosen

theorem Logged.ensureCurrentLocked (logged : Logged q) (available : List String) (now : Int) :
    Logged (q.ensureCurrentLocked available now) := by
  rcases ensureCurrentLocked_cases available now q with ⟨same, _⟩ | ⟨_, name, reason, _, _, chosen⟩
  · rw [same]
    exact logged
  · rw [chosen]
    exact logged.chooseLocked name reason now

theorem Logged.updated (logged : Logged q) (results : List (String × routeProbeResult))
    (available : List String) (now : Int) :
    Logged (q.updated results available now) := by
  obtain ⟨states, history, same⟩ := updated_frame results available now q
  rw [same]
  exact ⟨logged.selected, logged.held⟩

theorem Logged.applyPriorityLocked (logged : Logged q) (available : List String)
    (cur : routeMemberQualityState) (now : Int) :
    Logged (q.applyPriorityLocked available cur now) := by
  unfold routeQualityMonitor.applyPriorityLocked
  split
  · exact logged.chooseLocked _ _ _
  split
  · exact logged
  split
  · exact logged.chooseLocked _ _ _
  · exact logged

theorem Logged.applyQualityLocked (logged : Logged q) (available : List String)
    (cur : routeMemberQualityState) (now : Int) :
    Logged (q.applyQualityLocked available cur now) := by
  unfold routeQualityMonitor.applyQualityLocked
  split
  · exact logged.chooseLocked _ _ _
  split
  · exact logged
  dsimp only
  split
  · exact logged.chooseLocked _ _ _
  · exact logged

theorem Logged.applyRound (logged : Logged q) (results : List (String × routeProbeResult))
    (available : List String) (now : Int) :
    Logged (q.applyRound results available now) := by
  have repaired := (logged.updated results available now).ensureCurrentLocked available now
  unfold routeQualityMonitor.applyRound
  split
  · exact logged
  dsimp only
  split
  · exact repaired
  split
  · exact repaired
  split
  · exact repaired.applyPriorityLocked available _ now
  · exact repaired.applyQualityLocked available _ now

/-- No event changes the selection without an entry in the log. -/
theorem Logged.step (logged : Logged q) (event : Event) : Logged (event.step q) := by
  cases event with
  | applyRound results available now => exact logged.applyRound results available now
  | preferred available now => exact logged.ensureCurrentLocked available now
  | rebuild name service => exact ⟨logged.selected, logged.held⟩
  | cancel => exact ⟨logged.selected, logged.held⟩

theorem logged_run (cfg : RouteConfig) (events : List Event) : Logged (run cfg events) := by
  have from_logged {q : routeQualityMonitor} (logged : Logged q) :
      Logged (events.foldl Event.step q) := by
    induction events generalizing q with
    | nil => exact logged
    | cons event rest ih => exact ih (logged.step event)
  exact from_logged ⟨rfl, rfl⟩

end routeQualityMonitor

/-- The log of a route is a chain without gaps after any polls of the watch and after any events of
the monitor, whichever of the two the route has. -/
theorem switchLog_gapFree :
    (∀ first ticks, GapFree (watchSwitch first ticks).switchLog (polled (first :: ticks))
      (watchSwitch first ticks).last) ∧
      ∀ cfg events, GapFree (routeQualityMonitor.run cfg events).log
        (routeQualityMonitor.run cfg events).choices
        (routeQualityMonitor.run cfg events).current := by
  constructor
  · intro first ticks
    obtain ⟨last, held⟩ := watchSwitch_holds first ticks
    rw [last]
    exact held.gapFree
  · intro cfg events
    have logged := routeQualityMonitor.logged_run cfg events
    rw [logged.selected]
    exact logged.held.gapFree

end Gotun.Tun
