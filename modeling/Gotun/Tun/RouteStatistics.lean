import Gotun.Tun.RouteRounds
import Mathlib.Data.List.DropRight

/-! The counters of a member as a function of the rounds that it has gone through. -/

namespace Gotun.Tun
namespace routeQualityMonitor

/-- What a round was for a member. -/
structure Round where
  common : Bool
  result : routeProbeResult
  deriving DecidableEq, Repr

namespace Round

def normal (r : Round) : Bool := r.result.status = .normal

/-- A failure that is counted: not one that all members share while the connectivity is fine. -/
def fails (r : Round) : Bool := r.result.status = .failed ∧ ¬ (r.common ∧ r.result.connectivity = "ok")

end Round

/-- The bad flags of all rounds that were no common failures. -/
def badFlags (rounds : List Round) : List Bool := (rounds.filter (!·.common)).map (!·.normal)

/-- The counters as they are defined over the rounds. -/
structure Statistics (rounds : List Round) (s : routeMemberQualityState) : Prop where
  window : s.window = (badFlags rounds).rtake 20
  samples : s.Samples = s.window.length
  bad : s.BadSamples = s.window.count true
  normal : s.ConsecutiveNormal = (rounds.rtakeWhile Round.normal).length
  failures : s.ConsecutiveFailures = (rounds.rtakeWhile Round.fails).length
  shown : s.Status = .common ↔ ∃ last, rounds.getLast? = some last ∧ last.common = true

theorem statistics_evaluating (service : Option Nat) : Statistics [] (evaluating service) where
  window := rfl
  samples := rfl
  bad := rfl
  normal := rfl
  failures := rfl
  shown := ⟨nofun, nofun⟩

/-- Dropping the oldest flag when there are too many keeps the last ones. -/
theorem slide_rtake {α : Type} (n : Nat) (l : List α) (a : α) :
    (if n < (l.rtake n ++ [a]).length then (l.rtake n ++ [a]).drop 1 else l.rtake n ++ [a]) =
      (l ++ [a]).rtake n := by
  simp only [List.rtake, List.length_append, List.length_drop, List.length_singleton]
  by_cases full : n ≤ l.length
  · rw [if_pos (by omega), ← List.drop_append_of_le_length (by omega), List.drop_drop]
    congr 1
    omega
  · rw [if_neg (by omega), Nat.sub_eq_zero_of_le (by omega), Nat.sub_eq_zero_of_le (by omega)]
    rfl

variable {rounds : List Round} {s : routeMemberQualityState}

theorem countResult_normal (counted : s.ConsecutiveNormal = (rounds.rtakeWhile Round.normal).length)
    (common : Bool) (r : routeProbeResult) :
    (countResult common r s).ConsecutiveNormal =
      ((rounds ++ [Round.mk common r]).rtakeWhile Round.normal).length := by
  by_cases normal : r.status = .normal
  · rw [List.rtakeWhile_concat_pos _ _ _ (by exact decide_eq_true normal), List.length_append,
      List.length_singleton, ← counted]
    simp [countResult, normal]
  · rw [List.rtakeWhile_concat_neg _ _ _ (by simp [Round.normal, normal])]
    unfold countResult
    split <;> rfl

theorem countResult_failures
    (counted : s.ConsecutiveFailures = (rounds.rtakeWhile Round.fails).length) (common : Bool)
    (r : routeProbeResult) :
    (countResult common r s).ConsecutiveFailures =
      ((rounds ++ [Round.mk common r]).rtakeWhile Round.fails).length := by
  unfold countResult
  split
  · rename_i failed
    by_cases excused : common = true ∧ r.connectivity = "ok"
    · rw [List.rtakeWhile_concat_neg _ _ _ (by simp [Round.fails, excused]), if_pos excused]
      rfl
    · rw [List.rtakeWhile_concat_pos _ _ _ (by exact decide_eq_true ⟨failed, excused⟩),
        List.length_append, List.length_singleton, ← counted]
      exact if_neg excused
  · rename_i passed
    rw [List.rtakeWhile_concat_neg _ _ _ (by simp [Round.fails, passed])]
    rfl

theorem shown_concat (rounds : List Round) (common : Bool) (r : routeProbeResult) :
    (if common then MemberStatus.common else .probed r.status) = .common ↔
      ∃ last, (rounds ++ [Round.mk common r]).getLast? = some last ∧ last.common = true := by
  rw [List.getLast?_concat]
  cases common with
  | true => exact ⟨fun _ => ⟨_, rfl, rfl⟩, fun _ => rfl⟩
  | false =>
    refine ⟨nofun, fun ⟨last, same, common⟩ => ?_⟩
    cases same
    contradiction

/-- Counting a result changes nothing but the counters. -/
theorem countResult_frame (common : Bool) (r : routeProbeResult)
    (s : routeMemberQualityState) : ∃ normal failures,
    countResult common r s =
      { s with ConsecutiveNormal := normal, ConsecutiveFailures := failures } := by
  unfold countResult
  split
  · exact ⟨_, _, rfl⟩
  · exact ⟨_, _, rfl⟩

theorem badFlags_common (r : routeProbeResult) : badFlags (rounds ++ [⟨true, r⟩]) = badFlags rounds := by
  rw [badFlags, List.filter_append, List.filter_cons_of_neg (by simp), List.filter_nil,
    List.append_nil, badFlags]

theorem badFlags_own (r : routeProbeResult) :
    badFlags (rounds ++ [⟨false, r⟩]) = badFlags rounds ++ [decide (r.status ≠ .normal)] := by
  rw [badFlags, List.filter_append, List.filter_cons_of_pos rfl, List.filter_nil, List.map_append,
    badFlags, List.map_singleton]
  simp [Round.normal]

theorem Statistics.updateMember (statistics : Statistics rounds s) (common : Bool) (now : Int)
    (r : routeProbeResult) :
    Statistics (rounds ++ [⟨common, r⟩]) (updateMember common now r s) := by
  obtain ⟨window, samples, bad, normal, failures, -⟩ := statistics
  have normal' := countResult_normal (s := noteResult now r s) normal common r
  have failures' := countResult_failures (s := noteResult now r s) failures common r
  have shown := shown_concat rounds common r
  obtain ⟨n, f, frame⟩ := countResult_frame common r (noteResult now r s)
  rw [frame] at normal' failures'
  unfold routeQualityMonitor.updateMember
  rw [frame]
  cases common with
  | true => exact ⟨by rw [badFlags_common]; exact window, samples, bad, normal', failures', shown⟩
  | false =>
    refine ⟨?_, rfl, rfl, normal', failures', shown⟩
    rw [badFlags_own, ← slide_rtake, ← window]
    rfl

/-! Runs. -/

/-- The rounds of a member since its state was made; nothing is applied once the monitor is cancelled. -/
structure Past where
  cancelled : Bool
  rounds : List Round

def Past.note (name : String) (past : Past) : Event → Past
  | .applyRound results available _ =>
    match past.cancelled, results.lookup name with
    | false, some r => { past with rounds := past.rounds ++ [⟨commonFailure results available, r⟩] }
    | _, _ => past
  | .preferred _ _ => past
  | .rebuild other _ => if other = name then { past with rounds := [] } else past
  | .cancel => { past with cancelled := true }

def pastOf (name : String) (events : List Event) : Past := events.foldl (Past.note name) ⟨false, []⟩

/-- The results of a round are a map. -/
def Event.Distinct : Event → Prop
  | .applyRound results _ _ => (results.map Prod.fst).Nodup
  | _ => True

instance : DecidablePred Event.Distinct
  | .applyRound results _ _ => inferInstanceAs (Decidable (results.map Prod.fst).Nodup)
  | .preferred _ _ | .rebuild _ _ | .cancel => isTrue trivial

/-- The monitor and the past of a member agree. -/
structure Recorded (name : String) (past : Past) (q : routeQualityMonitor) : Prop where
  cancelled : q.cancelled = past.cancelled
  statistics : ∀ s, q.states name = some s → Statistics past.rounds s

variable {name : String} {past : Past} {q : routeQualityMonitor}

theorem chooseLocked_cancelled (name : String) (reason : Reason) (now : Int) (q : routeQualityMonitor) :
    (q.chooseLocked name reason now).cancelled = q.cancelled := by
  unfold chooseLocked
  split_ifs <;> rfl

theorem ensureCurrentLocked_cancelled (available : List String) (now : Int) (q : routeQualityMonitor) :
    (q.ensureCurrentLocked available now).cancelled = q.cancelled := by
  rcases ensureCurrentLocked_cases available now q with ⟨same, _⟩ | ⟨_, name, reason, _, _, chosen⟩
  · rw [same]
  · rw [chosen, chooseLocked_cancelled]

theorem applyRound_cancelled (results : List (String × routeProbeResult)) (available : List String)
    (now : Int) (q : routeQualityMonitor) :
    (q.applyRound results available now).cancelled = q.cancelled := by
  obtain ⟨states, history, frame⟩ := updated_frame results available now q
  have repaired : ((q.updated results available now).ensureCurrentLocked available now).cancelled =
      q.cancelled := by
    rw [ensureCurrentLocked_cancelled, frame]
  unfold applyRound
  split
  · rfl
  dsimp only
  split
  · exact repaired
  split
  · exact repaired
  split
  · unfold applyPriorityLocked
    split
    · rw [chooseLocked_cancelled, repaired]
    split
    · exact repaired
    split
    · rw [chooseLocked_cancelled, repaired]
    · exact repaired
  · unfold applyQualityLocked
    split
    · rw [chooseLocked_cancelled, repaired]
    split
    · exact repaired
    dsimp only
    split
    · rw [chooseLocked_cancelled, repaired]
    · exact repaired

theorem Recorded.applyRound (recorded : Recorded name past q)
    {results : List (String × routeProbeResult)} (distinct : (results.map Prod.fst).Nodup)
    (available : List String) (now : Int) :
    Recorded name (past.note name (.applyRound results available now))
      (q.applyRound results available now) := by
  obtain ⟨cancelled, statistics⟩ := recorded
  cases stopped : past.cancelled with
  | true =>
    have unchanged : q.applyRound results available now = q := by
      rw [routeQualityMonitor.applyRound, if_pos (cancelled.trans stopped)]
    simp only [Past.note, stopped, unchanged]
    exact ⟨cancelled, statistics⟩
  | false =>
    have live := cancelled.trans stopped
    have states := foldl_applyResult_states (commonFailure results available) now results distinct
      { q with rounds := q.rounds + 1 } name
    rw [← updated, ← applyRound_states live] at states
    have kept := applyRound_cancelled results available now q
    cases found : results.lookup name with
    | none =>
      simp only [found, Option.map_none, Option.getD_none, Option.map_id_fun', id_eq] at states
      simp only [Past.note, stopped, found]
      exact ⟨kept.trans cancelled, fun s present => statistics s (states ▸ present)⟩
    | some r =>
      simp only [found, Option.map_some, Option.getD_some] at states
      simp only [Past.note, stopped, found]
      refine ⟨kept.trans live, fun s present => ?_⟩
      rw [states] at present
      obtain ⟨before, there, rfl⟩ := Option.map_eq_some_iff.mp present
      exact (statistics before there).updateMember _ now r

theorem Recorded.step (recorded : Recorded name past q) {event : Event} (distinct : event.Distinct) :
    Recorded name (past.note name event) (event.step q) := by
  cases event with
  | applyRound results available now => exact recorded.applyRound distinct available now
  | preferred available now =>
    refine ⟨?_, fun s present => recorded.statistics s ?_⟩
    · rw [Event.step, preferred, ensureCurrentLocked_cancelled]
      exact recorded.cancelled
    · rwa [Event.step, preferred, ensureCurrentLocked_states] at present
  | cancel => exact ⟨rfl, recorded.statistics⟩
  | rebuild other service =>
    by_cases same : other = name
    · subst same
      refine ⟨?_, fun s present => ?_⟩
      · rw [Past.note, if_pos rfl]
        exact recorded.cancelled
      · simp only [Event.step, rebuild, Function.update_self] at present
        rw [Past.note, if_pos rfl, ← Option.some.inj present]
        exact statistics_evaluating service
    · rw [Past.note, if_neg same]
      refine ⟨recorded.cancelled, fun s present => recorded.statistics s ?_⟩
      simp only [Event.step, rebuild, Function.update_of_ne (Ne.symm same)] at present
      exact present

/-- In every run the counters of a member are those that its rounds give. -/
theorem statistics_of_run (cfg : RouteConfig) (events : List Event)
    (distinct : ∀ event ∈ events, event.Distinct) {name : String} {s : routeMemberQualityState}
    (present : (run cfg events).states name = some s) :
    Statistics (pastOf name events).rounds s := by
  have recorded : Recorded name (pastOf name events) (run cfg events) := by
    clear present
    induction events using List.reverseRecOn with
    | nil =>
      refine ⟨rfl, fun s present => ?_⟩
      simp only [run, List.foldl_nil, newRouteQualityMonitor] at present
      split at present
      · rw [← Option.some.inj present]
        exact statistics_evaluating none
      · contradiction
    | append_singleton events event ih =>
      have before := ih fun event member => distinct event (List.mem_append_left _ member)
      have after :=
        before.step (distinct event (List.mem_append_right _ (List.mem_singleton_self event)))
      rw [pastOf, run, List.foldl_concat, List.foldl_concat]
      exact after
  exact recorded.statistics s present

/-- A round that all members fail, and before it one that the second member passes. -/
def passThenShare : List Event :=
  [.applyRound firstFailed ["a", "b"] 0,
    .applyRound [("b", ⟨.failed, 1, "", "ok"⟩), ("a", ⟨.failed, 1, "", "failed"⟩)] ["a", "b"] 30]

theorem statistics_pass_then_share :
    ∃ s, (run (twoMembers .quality) passThenShare).states "b" = some s ∧
      s.Status = .common ∧ s.Samples = 1 ∧
      Statistics (pastOf "b" passThenShare).rounds s := by
  obtain ⟨s, present, shown, samples⟩ : ∃ s, (run (twoMembers .quality) passThenShare).states "b" =
    some s ∧ s.Status = .common ∧ s.Samples = 1 := ⟨_, rfl, rfl, rfl⟩
  exact ⟨s, present, shown, samples,
    statistics_of_run (twoMembers .quality) passThenShare (by decide) present⟩

end routeQualityMonitor
end Gotun.Tun
