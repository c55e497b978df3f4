import Gotun.Lib.Rolling
import Mathlib.Algebra.BigOperators.Group.List.Basic
import Mathlib.Algebra.Order.BigOperators.Group.List
import Mathlib.Algebra.Order.Group.Unbundled.Abs
import Mathlib.Algebra.Order.Ring.Int
import Mathlib.Data.Rat.Defs
import Mathlib.Tactic.Linarith

/-! `tun/quality.go`: the tracker of the probes of one output. It keeps a window of samples next to
counters over the whole history, and every snapshot is computed from both. -/

namespace Gotun.Tun
open Gotun.Lib

inductive QualityStatus where
  | disabled
  | up
  | degraded
  | down
  deriving DecidableEq, Repr

def defaultProbeWindowSize : Nat := 5

/-- `time.Duration.Milliseconds`, of nanoseconds. -/
def milliseconds (d : Int) : Int := d.tdiv 1000000

structure probeSample where
  success : Bool
  rttMS : Int
  deriving DecidableEq, Repr

/-- `LossRatio` is the quotient before it is rounded to a `float64`. -/
structure QualitySnapshot where
  Status : QualityStatus
  RTTAvgMs : Int
  LossRatio : Rat
  LossPct : Rat
  JitterMs : Int
  LastOKAt : Int
  LastError : String
  ConsecutiveFailures : Nat
  ProbeSuccessTotal : Nat
  ProbeFailureTotal : Nat
  OpenSuccessTotal : Nat
  OpenFailureTotal : Nat
  ActiveStreams : Int
  BytesUplinkTotal : Int
  BytesDownlinkTotal : Int

structure QualitySummary where
  Status : QualityStatus
  RTTMs : Int
  LossPct : Rat
  LastError : String

/-- What the hook `recordProbe` is given. -/
structure ProbeNote where
  time : Int
  success : Bool
  ms : Int
  message : String
  deriving DecidableEq, Repr

/-- `recordProbe` lists what the hook was given, where there is one. -/
structure QualityTracker where
  service : String
  output : String
  readCounter : Option Int
  writeCounter : Option Int
  enabled : Bool
  windowSize : Nat
  sized : 0 < windowSize
  openSuccessTotal : Nat
  openFailureTotal : Nat
  activeStreams : Int
  probeSuccessTotal : Nat
  probeFailureTotal : Nat
  consecutiveFailures : Nat
  samples : List probeSample
  lastOKAt : Int
  lastError : String
  recordProbe : Option (List ProbeNote)

def NewQualityTracker (service output : String) (readCounter writeCounter : Option Int) (enabled : Bool)
    (windowSize : Int) : QualityTracker where
  service := service
  output := output
  readCounter := readCounter
  writeCounter := writeCounter
  enabled := enabled
  windowSize := if windowSize ≤ 0 then defaultProbeWindowSize else windowSize.toNat
  sized := by
    split_ifs with missing
    · decide
    · omega
  openSuccessTotal := 0
  openFailureTotal := 0
  activeStreams := 0
  probeSuccessTotal := 0
  probeFailureTotal := 0
  consecutiveFailures := 0
  samples := []
  lastOKAt := 0
  lastError := ""
  recordProbe := none

/-- What the loop of `snapshotLocked` carries from sample to sample. The sums are exact: a
`Duration` is less than ten to the thirteenth milliseconds. -/
structure Totals where
  okCount : Nat
  failCount : Nat
  totalRTT : Int
  lastRTT : Int
  jitterSum : Int
  jitterSamples : Nat
  deriving DecidableEq, Repr

def Totals.add (t : Totals) (sample : probeSample) : Totals :=
  if !sample.success then { t with failCount := t.failCount + 1 }
  else
    let t := { t with okCount := t.okCount + 1, totalRTT := t.totalRTT + sample.rttMS }
    let t := if 0 < t.lastRTT then
        { t with
          jitterSum := t.jitterSum + |sample.rttMS - t.lastRTT|
          jitterSamples := t.jitterSamples + 1 }
      else t
    { t with lastRTT := sample.rttMS }

def totals (samples : List probeSample) : Totals := samples.foldl Totals.add ⟨0, 0, 0, 0, 0, 0⟩

namespace QualityTracker
variable (q : QualityTracker)

def Enabled : Bool := q.enabled

def RecordOpenSuccess : QualityTracker := { q with openSuccessTotal := q.openSuccessTotal + 1 }

def RecordOpenFailure : QualityTracker := { q with openFailureTotal := q.openFailureTotal + 1 }

def RecordStreamOpen : QualityTracker := { q with activeStreams := q.activeStreams + 1 }

def RecordStreamClose : QualityTracker := { q with activeStreams := q.activeStreams - 1 }

def appendSample (sample : probeSample) : QualityTracker :=
  let samples := q.samples ++ [sample]
  { q with samples := if q.windowSize < samples.length then
    samples.drop (samples.length - q.windowSize) else samples }

def note (n : ProbeNote) : QualityTracker := { q with recordProbe := q.recordProbe.map (· ++ [n]) }

def RecordProbeSuccess (now rtt : Int) : QualityTracker :=
  let q := { q with probeSuccessTotal := q.probeSuccessTotal + 1, consecutiveFailures := 0 }
  let q := { q with lastOKAt := now, lastError := "" }
  let ms := milliseconds rtt
  (q.appendSample ⟨true, ms⟩).note ⟨now, true, ms, ""⟩

def RecordProbeFailure (now : Int) (err : Option String) : QualityTracker :=
  let q := { q with
    probeFailureTotal := q.probeFailureTotal + 1, consecutiveFailures := q.consecutiveFailures + 1 }
  let q := { q with lastError := err.getD q.lastError }
  (q.appendSample ⟨false, 0⟩).note ⟨now, false, -1, err.getD ""⟩

def calcStatusLocked : QualityStatus :=
  if !q.enabled then .disabled
  else if q.samples = [] then .disabled
  else
    let hasSuccess := q.samples.any fun sample => sample.success
    let hasFailure := q.samples.any fun sample => !sample.success
    if !hasSuccess then .down
    else if hasFailure ∨ 0 < q.consecutiveFailures then .degraded
    else .up

def snapshotLocked : QualitySnapshot :=
  let t := totals q.samples
  let LossRatio : Rat := if 0 < q.samples.length then t.failCount / q.samples.length else 0
  { Status := q.calcStatusLocked
    RTTAvgMs := if 0 < t.okCount then t.totalRTT.tdiv t.okCount else 0
    LossRatio := LossRatio
    LossPct := LossRatio * 100
    JitterMs := if 0 < t.jitterSamples then t.jitterSum.tdiv t.jitterSamples else 0
    LastOKAt := q.lastOKAt
    LastError := q.lastError
    ConsecutiveFailures := q.consecutiveFailures
    ProbeSuccessTotal := q.probeSuccessTotal
    ProbeFailureTotal := q.probeFailureTotal
    OpenSuccessTotal := q.openSuccessTotal
    OpenFailureTotal := q.openFailureTotal
    ActiveStreams := q.activeStreams
    BytesUplinkTotal := q.writeCounter.getD 0
    BytesDownlinkTotal := q.readCounter.getD 0 }

def Snapshot : QualitySnapshot := q.snapshotLocked

def Summary : QualitySummary :=
  let snap := q.Snapshot
  ⟨snap.Status, snap.RTTAvgMs, snap.LossPct, snap.LastError⟩

end QualityTracker

/-- The outcome of one probe. -/
inductive ProbeOutcome where
  | success (now rtt : Int)
  | failure (now : Int) (err : Option String)
  deriving DecidableEq, Repr

namespace ProbeOutcome

def sample : ProbeOutcome → probeSample
  | .success _ rtt => ⟨true, milliseconds rtt⟩
  | .failure _ _ => ⟨false, 0⟩

def failed : ProbeOutcome → Bool
  | .success _ _ => false
  | .failure _ _ => true

end ProbeOutcome

/-- A call of the tracker. -/
inductive TrackerCall where
  | probe (outcome : ProbeOutcome)
  | openSuccess
  | openFailure
  | streamOpen
  | streamClose
  deriving DecidableEq, Repr

namespace QualityTracker

def call (q : QualityTracker) : TrackerCall → QualityTracker
  | .probe (.success now rtt) => q.RecordProbeSuccess now rtt
  | .probe (.failure now err) => q.RecordProbeFailure now err
  | .openSuccess => q.RecordOpenSuccess
  | .openFailure => q.RecordOpenFailure
  | .streamOpen => q.RecordStreamOpen
  | .streamClose => q.RecordStreamClose

def calls (q : QualityTracker) (cs : List TrackerCall) : QualityTracker := cs.foldl call q

end QualityTracker

/-- The probes among the calls: the history that the snapshot is about. -/
def probes (cs : List TrackerCall) : List ProbeOutcome :=
  cs.filterMap fun c => match c with
    | .probe outcome => some outcome
    | _ => none

/-- The RTTs of the successes. -/
def rtts (samples : List probeSample) : List Int :=
  samples.filterMap fun s => if s.success then some s.rttMS else none

/-- The integer mean, zero for no items. -/
def mean (items : List Int) : Int := items.sum.tdiv items.length

theorem mean_nil : mean [] = 0 := rfl

/-- Each item with the one that follows it. -/
def successive (items : List Int) : List (Int × Int) := items.zip items.tail

def differences (items : List Int) : List Int := (successive items).map fun p => |p.2 - p.1|

theorem successive_cons (a b : Int) (items : List Int) :
    successive (a :: b :: items) = (a, b) :: successive (b :: items) := rfl

theorem rtts_success (ms : Int) (samples : List probeSample) :
    rtts (⟨true, ms⟩ :: samples) = ms :: rtts samples := rfl

theorem rtts_failure (ms : Int) (samples : List probeSample) :
    rtts (⟨false, ms⟩ :: samples) = rtts samples := rfl

/-- The differences that the loop adds up: those after an RTT above zero. -/
def counted (items : List Int) : List Int :=
  ((successive items).filter fun p => 0 < p.1).map fun p => |p.2 - p.1|

theorem counted_cons (a b : Int) (items : List Int) :
    counted (a :: b :: items) = (if 0 < a then [|b - a|] else []) ++ counted (b :: items) := by
  rw [counted, successive_cons, List.filter_cons]
  by_cases positive : 0 < a
  · simp [positive, counted]
  · simp [positive, counted]

/-- The loop from any point on. -/
theorem foldl_add (samples : List probeSample) (t : Totals) :
    (samples.foldl Totals.add t).okCount = t.okCount + (rtts samples).length ∧
    (samples.foldl Totals.add t).totalRTT = t.totalRTT + (rtts samples).sum ∧
    (samples.foldl Totals.add t).jitterSum = t.jitterSum + (counted (t.lastRTT :: rtts samples)).sum ∧
    (samples.foldl Totals.add t).jitterSamples =
      t.jitterSamples + (counted (t.lastRTT :: rtts samples)).length := by
  induction samples generalizing t with
  | nil => simp [rtts, counted, successive]
  | cons s samples ih =>
    obtain ⟨success, ms⟩ := s
    obtain ⟨ok, total, jitter, pairs⟩ := ih (t.add ⟨success, ms⟩)
    rw [List.foldl_cons, ok, total, jitter, pairs]
    cases success with
    | false =>
      rw [rtts_failure]
      simp [Totals.add]
    | true =>
      rw [rtts_success, counted_cons]
      by_cases positive : 0 < t.lastRTT
      · simp [Totals.add, positive]
        omega
      · simp [Totals.add, positive]
        omega

theorem counted_zero (items : List Int) : counted (0 :: items) = counted items := by
  cases items with
  | nil => rfl
  | cons a items => rw [counted_cons, if_neg (lt_irrefl _), List.nil_append]

theorem totals_okCount (samples : List probeSample) : (totals samples).okCount = (rtts samples).length :=
  (foldl_add samples _).1.trans (Nat.zero_add _)

theorem totals_totalRTT (samples : List probeSample) : (totals samples).totalRTT = (rtts samples).sum :=
  (foldl_add samples _).2.1.trans (zero_add _)

theorem totals_jitterSum (samples : List probeSample) :
    (totals samples).jitterSum = (counted (rtts samples)).sum := by
  rw [totals, (foldl_add samples _).2.2.1, counted_zero, zero_add]

theorem totals_jitterSamples (samples : List probeSample) :
    (totals samples).jitterSamples = (counted (rtts samples)).length := by
  rw [totals, (foldl_add samples _).2.2.2, counted_zero, Nat.zero_add]

/-- A guard against an empty list changes no mean. -/
theorem mean_guard (items : List Int) :
    (if 0 < items.length then items.sum.tdiv items.length else 0) = mean items := by
  split_ifs with some_item
  · rfl
  · rw [List.eq_nil_of_length_eq_zero (Nat.eq_zero_of_not_pos some_item), mean_nil]

theorem snapshot_rtt (q : QualityTracker) : q.snapshotLocked.RTTAvgMs = mean (rtts q.samples) := by
  rw [QualityTracker.snapshotLocked, totals_okCount, totals_totalRTT]
  exact mean_guard _

theorem snapshot_jitter (q : QualityTracker) :
    q.snapshotLocked.JitterMs = mean (counted (rtts q.samples)) := by
  rw [QualityTracker.snapshotLocked, totals_jitterSum, totals_jitterSamples]
  exact mean_guard _

theorem counted_nonneg (items : List Int) : 0 ≤ (counted items).sum := by
  refine List.sum_nonneg fun d found => ?_
  obtain ⟨p, _, rfl⟩ := List.mem_map.mp found
  exact abs_nonneg _

theorem mem_rtts {samples : List probeSample} {r : Int}
    (found : r ∈ rtts samples) : ∃ s ∈ samples, s.rttMS = r := by
  obtain ⟨s, member, taken⟩ := List.mem_filterMap.mp found
  refine ⟨s, member, ?_⟩
  split_ifs at taken with success
  · exact Option.some.inj taken

theorem mem_counted {items : List Int} {d : Int} (found : d ∈ counted items) :
    ∃ a ∈ items, ∃ b ∈ items, d = |b - a| := by
  obtain ⟨p, member, rfl⟩ := List.mem_map.mp found
  obtain ⟨first, second⟩ := List.of_mem_zip (List.mem_of_mem_filter member)
  exact ⟨p.1, first, p.2, List.mem_of_mem_tail second, rfl⟩

theorem counted_length_le (items : List Int) : (counted items).length ≤ items.length := by
  rw [counted, List.length_map]
  refine (List.length_filter_le ..).trans ?_
  rw [successive, List.length_zip]
  exact Nat.min_le_left ..

theorem sum_le_of_le {items : List Int} {bound : Int} {n : Nat} (each : ∀ d ∈ items, d ≤ bound)
    (positive : 0 ≤ bound) (short : items.length ≤ n) : items.sum ≤ n * bound := by
  have total := List.sum_le_card_nsmul items bound each
  rw [nsmul_eq_mul] at total
  exact total.trans (mul_le_mul_of_nonneg_right (by exact_mod_cast short) positive)

theorem le_sum_of_le {items : List Int} {bound : Int} {n : Nat} (each : ∀ d ∈ items, -bound ≤ d)
    (positive : 0 ≤ bound) (short : items.length ≤ n) : -(n * bound) ≤ items.sum := by
  have total := List.card_nsmul_le_sum items (-bound) each
  rw [nsmul_eq_mul, mul_neg] at total
  exact (neg_le_neg (mul_le_mul_of_nonneg_right (by exact_mod_cast short) positive)).trans total

/-- The sums of a window of at most half a million samples are within an `int64`. -/
theorem totals_fit {samples : List probeSample} (short : samples.length ≤ 500000)
    (durations : ∀ s ∈ samples, |s.rttMS| ≤ 9223372036854) :
    |(totals samples).totalRTT| < 2 ^ 63 ∧ |(totals samples).jitterSum| < 2 ^ 63 := by
  have few : (rtts samples).length ≤ 500000 := (List.length_filterMap_le ..).trans short
  have bounded : ∀ r ∈ rtts samples, -9223372036854 ≤ r ∧ r ≤ 9223372036854 := by
    intro r found
    obtain ⟨s, member, rfl⟩ := mem_rtts found
    exact abs_le.mp (durations s member)
  constructor
  · rw [totals_totalRTT, abs_lt]
    have above := sum_le_of_le (fun r found => (bounded r found).2) (by decide) few
    have below := le_sum_of_le (fun r found => (bounded r found).1) (by decide) few
    omega
  · rw [totals_jitterSum, abs_of_nonneg (counted_nonneg _)]
    have apart : ∀ d ∈ counted (rtts samples), d ≤ 2 * 9223372036854 := by
      intro d found
      obtain ⟨a, ha, b, hb, rfl⟩ := mem_counted found
      have small := bounded a ha
      have small' := bounded b hb
      rw [abs_le]
      omega
    have above := sum_le_of_le apart (by decide) ((counted_length_le _).trans few)
    omega

/-- What the tracker keeps of its history. -/
structure Recorded (fresh q : QualityTracker) (history : List ProbeOutcome) : Prop where
  enabled : q.enabled = fresh.enabled
  windowSize : q.windowSize = fresh.windowSize
  samples : q.samples = (history.map ProbeOutcome.sample).rtake fresh.windowSize
  consecutive : q.consecutiveFailures = (history.rtakeWhile ProbeOutcome.failed).length
  successes : q.probeSuccessTotal = history.countP (fun o => !o.failed)
  failures : q.probeFailureTotal = history.countP ProbeOutcome.failed

theorem appendSample_samples (q : QualityTracker) (sample : probeSample) :
    (q.appendSample sample).samples = push q.windowSize q.samples sample := by
  rw [QualityTracker.appendSample]
  dsimp only
  split_ifs with full
  · rfl
  · exact (push_of_le (Nat.le_of_not_lt full)).symm

namespace Recorded
variable {fresh q : QualityTracker} {history : List ProbeOutcome}

theorem window (recorded : Recorded fresh q history) (o : ProbeOutcome) :
    push q.windowSize q.samples o.sample =
      ((history ++ [o]).map ProbeOutcome.sample).rtake fresh.windowSize := by
  rw [recorded.windowSize, recorded.samples, push_rtake, List.map_append, List.map_singleton]

theorem success (recorded : Recorded fresh q history) (now rtt : Int) :
    Recorded fresh (q.RecordProbeSuccess now rtt) (history ++ [.success now rtt]) where
  enabled := recorded.enabled
  windowSize := recorded.windowSize
  samples := (appendSample_samples _ _).trans (recorded.window (.success now rtt))
  consecutive := by
    rw [List.rtakeWhile_concat_neg _ _ _ (by simp [ProbeOutcome.failed])]
    rfl
  successes := by
    rw [List.countP_append, List.countP_singleton, ← recorded.successes]
    rfl
  failures := by
    rw [List.countP_append, List.countP_singleton, ← recorded.failures]
    rfl

theorem failure (recorded : Recorded fresh q history) (now : Int) (err : Option String) :
    Recorded fresh (q.RecordProbeFailure now err) (history ++ [.failure now err]) where
  enabled := recorded.enabled
  windowSize := recorded.windowSize
  samples := (appendSample_samples _ _).trans (recorded.window (.failure now err))
  consecutive := by
    rw [List.rtakeWhile_concat_pos _ _ _ (by rfl), List.length_append, ← recorded.consecutive]
    rfl
  successes := by
    rw [List.countP_append, List.countP_singleton, ← recorded.successes]
    rfl
  failures := by
    rw [List.countP_append, List.countP_singleton, ← recorded.failures]
    rfl

/-- One call adds its probe to the history, if it is one. -/
theorem call (recorded : Recorded fresh q history) (c : TrackerCall) :
    Recorded fresh (q.call c) (history ++ probes [c]) := by
  cases c with
  | probe outcome =>
    cases outcome with
    | success now rtt => exact recorded.success now rtt
    | failure now err => exact recorded.failure now err
  | openSuccess | openFailure | streamOpen | streamClose =>
    rw [show probes _ = [] from rfl, List.append_nil]
    exact ⟨recorded.enabled, recorded.windowSize, recorded.samples, recorded.consecutive,
      recorded.successes, recorded.failures⟩

theorem calls (recorded : Recorded fresh q history) (cs : List TrackerCall) :
    Recorded fresh (q.calls cs) (history ++ probes cs) := by
  induction cs generalizing q history with
  | nil => rwa [show probes [] = [] from rfl, List.append_nil]
  | cons c cs ih =>
    have later := ih (recorded.call c)
    rwa [List.append_assoc, show probes [c] ++ probes cs =
      probes (c :: cs) from (List.filterMap_append ..).symm] at later

end Recorded

theorem recorded_new (service output : String) (readCounter writeCounter : Option Int)
    (enabled : Bool) (windowSize : Int) :
    Recorded (NewQualityTracker service output readCounter writeCounter enabled windowSize)
      (NewQualityTracker service output readCounter writeCounter enabled windowSize) [] :=
  ⟨rfl, rfl, (List.rtake_nil _).symm, rfl, rfl, rfl⟩

/-- A failure that ends the history is in every window. -/
theorem failed_mem_window {w : Nat} (room : 0 < w) {history : List ProbeOutcome}
    (trailing : 0 < (history.rtakeWhile ProbeOutcome.failed).length) :
    ∃ o ∈ history.rtake w, o.failed = true := by
  rcases List.eq_nil_or_concat history with rfl | ⟨earlier, o, rfl⟩
  · simp at trailing
  · rw [List.concat_eq_append] at trailing ⊢
    by_cases bad : o.failed = true
    · exact ⟨o, mem_rtake_concat room earlier o, bad⟩
    · rw [List.rtakeWhile_concat_neg _ _ _ bad] at trailing
      exact absurd trailing (Nat.lt_irrefl 0)

/-- The RTTs of the successes, in milliseconds. -/
def successRTTs (outcomes : List ProbeOutcome) : List Int :=
  outcomes.filterMap fun o => match o with
    | .success _ rtt => some (milliseconds rtt)
    | .failure _ _ => none

theorem rtts_sample (outcomes : List ProbeOutcome) :
    rtts (outcomes.map ProbeOutcome.sample) = successRTTs outcomes := by
  rw [rtts, List.filterMap_map, successRTTs]
  refine List.filterMap_congr fun o _ => ?_
  cases o with
  | success now rtt => rfl
  | failure now err => rfl

/-- The health of an output, by definition: what the last `w` probes of its history say. -/
structure Health (enabled : Bool) (w : Nat) (history : List ProbeOutcome)
    (snap : QualitySnapshot) : Prop where
  disabled : enabled = false ∨ history = [] → snap.Status = .disabled
  down : enabled = true → history ≠ [] → (∀ o ∈ history.rtake w, o.failed = true) → snap.Status = .down
  degraded : enabled = true → (∃ o ∈ history.rtake w, o.failed = true) →
    (∃ o ∈ history.rtake w, o.failed = false) →
    snap.Status = .degraded
  up : enabled = true → history ≠ [] → (∀ o ∈ history.rtake w, o.failed = false) → snap.Status = .up
  average : snap.RTTAvgMs = mean (successRTTs (history.rtake w))
  consecutive : snap.ConsecutiveFailures = (history.rtakeWhile ProbeOutcome.failed).length
  successes : snap.ProbeSuccessTotal = history.countP (fun o => !o.failed)
  failures : snap.ProbeFailureTotal = history.countP ProbeOutcome.failed
  all : snap.ProbeSuccessTotal + snap.ProbeFailureTotal = history.length

namespace Recorded
variable {fresh q : QualityTracker} {history : List ProbeOutcome}

theorem samples_eq (recorded : Recorded fresh q history) :
    q.samples = (history.rtake fresh.windowSize).map ProbeOutcome.sample := by
  rw [recorded.samples, map_rtake]

theorem hasSuccess (recorded : Recorded fresh q history) : (q.samples.any fun s => s.success) = true ↔
    ∃ o ∈ history.rtake fresh.windowSize, o.failed = false := by
  rw [recorded.samples_eq, List.any_map, List.any_eq_true]
  refine exists_congr fun o => and_congr_right fun _ => ?_
  cases o <;> simp [ProbeOutcome.sample, ProbeOutcome.failed]

theorem hasFailure (recorded : Recorded fresh q history) : (q.samples.any fun s => !s.success) = true ↔
    ∃ o ∈ history.rtake fresh.windowSize, o.failed = true := by
  rw [recorded.samples_eq, List.any_map, List.any_eq_true]
  refine exists_congr fun o => and_congr_right fun _ => ?_
  cases o <;> simp [ProbeOutcome.sample, ProbeOutcome.failed]

/-- The counter agrees with the window: it is above zero only after a failure that is still there. -/
theorem trailing (recorded : Recorded fresh q history) (some_failure : 0 < q.consecutiveFailures) :
    ∃ o ∈ history.rtake fresh.windowSize, o.failed = true := by
  rw [recorded.consecutive] at some_failure
  exact failed_mem_window fresh.sized some_failure

theorem samples_ne_nil (recorded : Recorded fresh q history)
    (some_probe : history ≠ []) : q.samples ≠ [] := by
  rw [recorded.samples_eq, ne_eq, List.map_eq_nil_iff]
  exact rtake_ne_nil fresh.sized some_probe

theorem status_disabled (recorded : Recorded fresh q history)
    (off : fresh.enabled = false ∨ history = []) :
    q.calcStatusLocked = .disabled := by
  rw [QualityTracker.calcStatusLocked, recorded.enabled]
  rcases off with off | nothing
  · rw [off]
    rfl
  · have no_sample : q.samples = [] := by rw [recorded.samples_eq, nothing, List.rtake_nil, List.map_nil]
    simp [no_sample]

theorem status_down (recorded : Recorded fresh q history) (on : fresh.enabled = true)
    (some_probe : history ≠ [])
    (bad : ∀ o ∈ history.rtake fresh.windowSize, o.failed = true) : q.calcStatusLocked = .down := by
  have no_success : (q.samples.any fun s => s.success) = false := by
    refine Bool.eq_false_iff.mpr fun some_success => ?_
    obtain ⟨o, found, good⟩ := recorded.hasSuccess.mp some_success
    exact absurd (bad o found) (by simp [good])
  rw [QualityTracker.calcStatusLocked, recorded.enabled, on, if_neg (by decide),
    if_neg (recorded.samples_ne_nil some_probe)]
  dsimp only
  rw [no_success]
  rfl

/-- With a success in the window it is the failures that decide. -/
theorem status_alive (recorded : Recorded fresh q history) (on : fresh.enabled = true)
    (good : ∃ o ∈ history.rtake fresh.windowSize, o.failed = false) : q.calcStatusLocked =
      if (q.samples.any fun s => !s.success) = true ∨ 0 < q.consecutiveFailures then
        .degraded
      else .up := by
  have some_success := recorded.hasSuccess.mpr good
  have some_sample : q.samples ≠ [] := by
    intro nothing
    rw [nothing] at some_success
    exact absurd some_success (by decide)
  rw [QualityTracker.calcStatusLocked, recorded.enabled, on, if_neg (by decide), if_neg some_sample]
  dsimp only
  rw [some_success]
  rfl

theorem status_degraded (recorded : Recorded fresh q history) (on : fresh.enabled = true)
    (bad : ∃ o ∈ history.rtake fresh.windowSize, o.failed = true)
    (good : ∃ o ∈ history.rtake fresh.windowSize, o.failed = false) :
    q.calcStatusLocked = .degraded := by
  rw [recorded.status_alive on good, if_pos (Or.inl (recorded.hasFailure.mpr bad))]

theorem status_up (recorded : Recorded fresh q history) (on : fresh.enabled = true)
    (some_probe : history ≠ [])
    (good : ∀ o ∈ history.rtake fresh.windowSize, o.failed = false) : q.calcStatusLocked = .up := by
  have none_bad : ¬ ∃ o ∈ history.rtake fresh.windowSize, o.failed = true := by
    rintro ⟨o, found, bad⟩
    exact absurd (good o found) (by simp [bad])
  obtain ⟨o, found⟩ := List.exists_mem_of_ne_nil _ (rtake_ne_nil fresh.sized some_probe)
  rw [recorded.status_alive on ⟨o, found, good o found⟩, if_neg]
  rintro (failure | counted)
  · exact none_bad (recorded.hasFailure.mp failure)
  · exact none_bad (recorded.trailing counted)

theorem health (recorded : Recorded fresh q history) :
    Health fresh.enabled fresh.windowSize history q.snapshotLocked where
  disabled := recorded.status_disabled
  down := recorded.status_down
  degraded := recorded.status_degraded
  up := recorded.status_up
  average := by rw [snapshot_rtt, recorded.samples_eq, rtts_sample]
  consecutive := recorded.consecutive
  successes := recorded.successes
  failures := recorded.failures
  all := by
    have total : q.probeSuccessTotal + q.probeFailureTotal = history.length := by
      rw [recorded.successes, recorded.failures, Nat.add_comm,
        List.length_eq_countP_add_countP ProbeOutcome.failed]
      simp
    exact total

end Recorded

/-- Whatever was called on the tracker, in whatever order, the snapshot says what the definition of
health says about the probes so far. -/
theorem snapshot_health (service output : String) (readCounter writeCounter : Option Int)
    (enabled : Bool) (windowSize : Int) (cs : List TrackerCall) :
    let fresh := NewQualityTracker service output readCounter writeCounter enabled windowSize
    Health enabled fresh.windowSize (probes cs) (fresh.calls cs).Snapshot ∧
      (fresh.windowSize : Int) = if windowSize ≤ 0 then 5 else windowSize := by
  intro fresh
  refine ⟨((recorded_new ..).calls cs).health, ?_⟩
  simp only [fresh, NewQualityTracker]
  split_ifs with missing
  · rfl
  · omega

/-- The differences that the loop leaves out: those after an RTT that is not above zero. -/
def skipped (items : List Int) : List Int :=
  ((successive items).filter fun p => !decide (0 < p.1)).map fun p => |p.2 - p.1|

theorem counted_skipped (items : List Int) :
    (counted items ++ skipped items).Perm (differences items) := by
  rw [counted, skipped, ← List.map_append, differences]
  exact (List.filter_append_perm _ _).map _

theorem differences_sum (items : List Int) :
    (differences items).sum = (counted items).sum + (skipped items).sum := by
  rw [← (counted_skipped items).sum_eq, List.sum_append]

theorem differences_length (items : List Int) :
    (differences items).length = (counted items).length + (skipped items).length := by
  rw [← (counted_skipped items).length_eq, List.length_append]

theorem skipped_nonneg (items : List Int) : 0 ≤ (skipped items).sum := by
  refine List.sum_nonneg fun d found => ?_
  obtain ⟨p, _, rfl⟩ := List.mem_map.mp found
  exact abs_nonneg _

theorem successive_concat (items : List Int) (a b : Int) :
    successive (items ++ [a] ++ [b]) = successive (items ++ [a]) ++ [(a, b)] := by
  induction items with
  | nil => rfl
  | cons c items ih =>
    cases items with
    | nil => rfl
    | cons d items =>
      simp only [List.cons_append, successive_cons] at ih ⊢
      rw [ih]

/-- One more RTT adds one difference, to those that count if the RTT before it is above zero. -/
theorem counted_concat (items : List Int) (a b : Int) :
    counted (items ++ [a] ++ [b]) = counted (items ++ [a]) ++ if 0 < a then [|b - a|] else [] := by
  rw [counted, successive_concat, List.filter_append, List.map_append]
  by_cases positive : 0 < a
  · simp [positive, counted]
  · simp [positive, counted]

theorem skipped_concat (items : List Int) (a b : Int) :
    skipped (items ++ [a] ++ [b]) = skipped (items ++ [a]) ++ if 0 < a then [] else [|b - a|] := by
  rw [skipped, successive_concat, List.filter_append, List.map_append]
  by_cases positive : 0 < a
  · simp [positive, skipped]
  · simp [positive, skipped]

theorem successive_fst {items : List Int} {p : Int × Int}
    (found : p ∈ successive items) : p.1 ∈ items.dropLast := by
  induction items with
  | nil => exact absurd found (by simp [successive])
  | cons a items ih =>
    cases items with
    | nil => exact absurd found (by simp [successive])
    | cons b items =>
      rw [successive_cons] at found
      rw [List.dropLast_cons_cons]
      rcases List.mem_cons.mp found with rfl | later
      · exact List.mem_cons_self
      · exact List.mem_cons_of_mem _ (ih later)

/-- An item that is not the last one stands first in a pair. -/
theorem mem_successive {items : List Int} {a : Int} (found : a ∈ items) (last : Int) :
    ∃ b, (a, b) ∈ successive (items ++ [last]) := by
  induction items with
  | nil => exact absurd found List.not_mem_nil
  | cons c items ih =>
    rcases List.mem_cons.mp found with rfl | later
    · cases items with
      | nil => exact ⟨last, List.mem_singleton_self _⟩
      | cons d items => exact ⟨d, List.mem_cons_self⟩
    · obtain ⟨b, member⟩ := ih later
      cases items with
      | nil => exact absurd later List.not_mem_nil
      | cons d items => exact ⟨b, List.mem_cons_of_mem _ member⟩

theorem skipped_eq_nil {items : List Int}
    (positive : ∀ r ∈ items.dropLast, 0 < r) : skipped items = [] := by
  rw [skipped, List.map_eq_nil_iff, List.filter_eq_nil_iff]
  intro p found
  simpa using positive p.1 (successive_fst found)

theorem skipped_ne_nil {items : List Int} {a : Int} (found : a ∈ items) (zero : ¬ 0 < a) (last : Int) :
    skipped (items ++ [last]) ≠ [] := by
  obtain ⟨b, member⟩ := mem_successive found last
  refine List.ne_nil_of_mem (List.mem_map_of_mem (List.mem_filter.mpr ⟨member, ?_⟩))
  simp [zero]

theorem mean_nonneg {items : List Int} (total : 0 ≤ items.sum) : 0 ≤ mean items :=
  Int.tdiv_nonneg total (Int.natCast_nonneg _)

/-- A long difference at the end of the items raises the mean of all above that of the others. -/
theorem mean_moved (items : List Int) (a : Int) (zero : ¬ 0 < a) :
    ∃ b, 0 ≤ b ∧ mean (counted (items ++ [a] ++ [b])) < mean (differences (items ++ [a] ++ [b])) := by
  have average := mean_nonneg (counted_nonneg (items ++ [a]))
  have total := add_nonneg (counted_nonneg (items ++ [a])) (skipped_nonneg (items ++ [a]))
  generalize all : (counted (items ++ [a])).length + (skipped (items ++ [a])).length = n
  rw [← differences_sum] at total
  rw [← differences_length] at all
  let b := (mean (counted (items ++ [a])) + 1) * (n + 1 : Nat)
  have added : 0 ≤ b := mul_nonneg (by omega) (Int.natCast_nonneg _)
  refine ⟨b, added, ?_⟩
  have sum : (differences (items ++ [a] ++ [b])).sum = (differences (items ++ [a])).sum + (b - a) := by
    rw [differences, successive_concat, List.map_append, List.sum_append, ← differences,
      List.map_singleton, List.sum_singleton, abs_of_nonneg (show 0 ≤ b - a by omega)]
  have length : (differences (items ++ [a] ++ [b])).length = n + 1 := by
    rw [differences, successive_concat, List.map_append, List.length_append, ← differences, all]
    rfl
  rw [counted_concat, if_neg zero, List.append_nil, ← Int.add_one_le_iff, mean.eq_1 (differences _),
    sum, length, Int.tdiv_eq_ediv_of_nonneg (by omega)]
  exact (Int.le_ediv_iff_mul_le (by omega)).mpr (show b ≤ _ by omega)

/-- Such a difference at the end, itself counted, raises the mean of the counted ones above that of
all where some are left out. -/
theorem mean_left_behind (items : List Int) (a : Int) (positive : 0 < a)
    (left_out : skipped (items ++ [a]) ≠ []) :
    ∃ b, 0 ≤ b ∧ mean (differences (items ++ [a] ++ [b])) < mean (counted (items ++ [a] ++ [b])) := by
  have kept := counted_nonneg (items ++ [a])
  have rest := skipped_nonneg (items ++ [a])
  have some_rest := List.length_pos_iff.mpr left_out
  generalize kept_sum : (counted (items ++ [a])).sum = A at kept
  generalize rest_sum : (skipped (items ++ [a])).sum = B at rest
  generalize kept_length : (counted (items ++ [a])).length = m
  generalize rest_length : (skipped (items ++ [a])).length = k at some_rest
  -- the last difference makes the mean of the counted ones the whole number `A + B + 1`
  let b := a + ((A + B + 1) * (m + 1 : Nat) - A)
  have enough : A + B + 1 ≤ (A + B + 1) * (m + 1 : Nat) := le_mul_of_one_le_right (by omega) (by omega)
  refine ⟨b, by omega, ?_⟩
  rw [mean, mean, differences_sum, differences_length, counted_concat, skipped_concat,
    if_pos positive, if_pos positive, List.append_nil, List.sum_append, List.sum_singleton,
    List.length_append, List.length_singleton, kept_sum, rest_sum, kept_length, rest_length,
    abs_of_nonneg (show 0 ≤ b - a by omega)]
  have whole : A + (b - a) = (A + B + 1) * (m + 1 : Nat) := by omega
  have less : (A + B + 1) * (m + 1 : Nat) + B < (A + B + 1) * (m + 1 + k : Nat) := by
    have each : A + B + 1 ≤ (A + B + 1) * (k : Nat) := le_mul_of_one_le_right (by omega) (by omega)
    rw [Nat.cast_add _ k, mul_add]
    omega
  rw [whole, Int.mul_tdiv_cancel _ (by omega), Int.tdiv_eq_ediv_of_nonneg (by omega)]
  exact (Int.ediv_lt_iff_lt_mul (by omega)).mpr less

/-- The window with one more success at its end. -/
def QualityTracker.endedBy (q : QualityTracker) (ms : Int) : QualityTracker :=
  { q with samples := q.samples ++ [⟨true, ms⟩] }

theorem rtts_endedBy (q : QualityTracker) (ms : Int) :
    rtts (q.endedBy ms).samples = rtts q.samples ++ [ms] := by
  rw [rtts, QualityTracker.endedBy, List.filterMap_append]
  rfl

theorem snapshot_jitter_of_pos (q : QualityTracker) (positive : ∀ r ∈ (rtts q.samples).dropLast, 0 < r) :
    q.snapshotLocked.JitterMs = mean (differences (rtts q.samples)) := by
  rw [snapshot_jitter, mean, mean, differences_sum, differences_length, skipped_eq_nil positive,
    List.sum_nil, add_zero, List.length_nil, Nat.add_zero]

/-- The jitter is the mean of the differences where no success but the last one of the window took
less than a millisecond. It is so whatever the last success took only if all before it took longer. -/
theorem snapshot_jitter_exact (q : QualityTracker) :
    ((∀ r ∈ (rtts q.samples).dropLast, 0 < r) →
      q.snapshotLocked.JitterMs = mean (differences (rtts q.samples))) ∧
      ((∀ ms, 0 ≤ ms → (q.endedBy ms).snapshotLocked.JitterMs =
        mean (differences (rtts (q.endedBy ms).samples))) ↔
        ∀ r ∈ rtts q.samples, 0 < r) := by
  refine ⟨snapshot_jitter_of_pos q, ?_, ?_⟩
  · intro exact_always r found
    by_contra zero
    obtain ⟨items, last, split⟩ :=
      List.eq_nil_or_concat (rtts q.samples) |>.resolve_left (List.ne_nil_of_mem found)
    rw [List.concat_eq_append] at split
    have always (b : Int) (nonneg : 0 ≤ b) :
        mean (counted (items ++ [last] ++ [b])) = mean (differences (items ++ [last] ++ [b])) := by
      rw [← split, ← rtts_endedBy, ← snapshot_jitter]
      exact exact_always b nonneg
    by_cases positive : 0 < last
    · have earlier : r ∈ items := by
        rcases List.mem_append.mp (split ▸ found) with earlier | final
        · exact earlier
        · exact absurd (List.mem_singleton.mp final ▸ positive) zero
      obtain ⟨b, nonneg, moved⟩ :=
        mean_left_behind items last positive (skipped_ne_nil earlier zero last)
      exact absurd (always b nonneg) moved.ne'
    · obtain ⟨b, nonneg, moved⟩ := mean_moved items last positive
      exact absurd (always b nonneg) moved.ne
  · intro positive ms _
    refine snapshot_jitter_of_pos _ fun r found => positive r ?_
    rwa [rtts_endedBy, List.dropLast_concat] at found

/-- A tracker after four probes, the last but one failed: 10 ms, 40 ms and 25 ms. -/
def fourProbes : QualityTracker :=
  (NewQualityTracker "tunnel" "127.0.0.1:6201" none none true 5).calls
    [.probe (.success 1000000000 10000000), .probe (.success 3000000000 40000000),
      .probe (.failure 5000000000 none),
      .probe (.success 7000000000 25000000)]

theorem fourProbes_jitter : fourProbes.snapshotLocked.JitterMs = 22 :=
  ((snapshot_jitter_exact fourProbes).1 (by decide)).trans (by decide)

/-- A tracker after two fast probes: less than one millisecond, then ten. -/
def twoProbes : QualityTracker :=
  (NewQualityTracker "tunnel" "127.0.0.1:6201" none none true 5).calls
    [.probe (.success 1000000000 300000), .probe (.success 3000000000 10000000)]

theorem jitter_lost : ¬ ∀ q : QualityTracker, (∀ r ∈ rtts q.samples, 0 ≤ r) →
    q.snapshotLocked.JitterMs = mean (differences (rtts q.samples)) := by
  intro exact
  have lost := exact twoProbes (by decide)
  exact absurd lost (by decide)

end Gotun.Tun
