import Gotun.Core.PipeRuns
import Gotun.Lib.Entries
import Gotun.Lib.Fair
import Gotun.Tun.Quality
import Mathlib.Data.List.Chain

/-! `tun/frame_probe_runner.go` and `tun/probe_channel.go`: the loop that probes an output. Its
select takes any of the cases that are ready, and a probe opens a stream of its own. -/

namespace Gotun.Tun
open Gotun.Lib
open Gotun.Core (Ticker Second)

def defaultProbeIntervalSec : Int := 2

/-- `time.Duration(seconds) * time.Second`, which wraps around. -/
def seconds (n : Int) : Int := (Int64.ofInt (n * 1000000000)).toInt

def probeInterval (ProbeIntervalSec : Int) : Int :=
  if seconds ProbeIntervalSec ≤ 0 then seconds defaultProbeIntervalSec else seconds ProbeIntervalSec

/-- The cases of the select of `loop`. -/
inductive ProbeRunner.Case where
  | tick
  | wake
  | close
  deriving DecidableEq, Repr

/-- What a probe gives: its round trip in nanoseconds, or an error. -/
inductive ProbeRunner.Result where
  | rtt (d : Int)
  | error (err : String)
  deriving DecidableEq, Repr

/-- The next step of `loop`, through `maybeProbe`, `probeOnce` and `ProbeChannel.Probe`. -/
inductive ProbeRunner.LoopAt where
  | select
  | Now (force : Bool)
  | maybeProbe (now : Nat) (force : Bool)
  | Probe
  | GetProbeStream
  | WrapProbeDst
  | streamProbe
  | Close (r : ProbeRunner.Result)
  | record (r : ProbeRunner.Result)
  | returned
  deriving DecidableEq, Repr

/-- The probe has a stream. -/
def ProbeRunner.LoopAt.holds : ProbeRunner.LoopAt → Bool
  | .WrapProbeDst | .streamProbe | .Close _ => true
  | .select | .Now _ | .maybeProbe _ _ | .Probe | .GetProbeStream | .record _ | .returned => false

/-- A probe has started, and is not recorded. -/
def ProbeRunner.LoopAt.probing : ProbeRunner.LoopAt → Bool
  | .Probe | .GetProbeStream | .WrapProbeDst | .streamProbe | .Close _ | .record _ => true
  | .select | .Now _ | .maybeProbe _ _ | .returned => false

/-- A request has been taken, and its probe has not started. -/
def ProbeRunner.LoopAt.forced : ProbeRunner.LoopAt → Bool
  | .Now force | .maybeProbe _ force => force
  | .select | .Probe | .GetProbeStream | .WrapProbeDst | .streamProbe | .Close _ | .record _
  | .returned => false

/-- The steps up to the select, at most. -/
def ProbeRunner.LoopAt.rank : ProbeRunner.LoopAt → Nat
  | .Now _ => 8
  | .maybeProbe _ _ => 7
  | .Probe => 6
  | .GetProbeStream => 5
  | .WrapProbeDst => 4
  | .streamProbe => 3
  | .Close _ => 2
  | .record _ => 1
  | .select | .returned => 0

/-- `probes` has when each probe started and whether it was forced, `triggers` counts the calls of
`TriggerProbe`, `opened` and `shut` the streams of probes. `channel` says whether the `ProbeChannel`
is closed. -/
structure ProbeRunner where
  interval : Int
  close : Bool
  wake : Bool
  ticker : Ticker
  clock : Nat
  lastProbe : Option Nat
  loop : ProbeRunner.LoopAt
  channel : Bool
  tracker : QualityTracker
  opened : Nat
  shut : Nat
  probes : List (Nat × Bool)
  triggers : Nat

namespace ProbeRunner

/-- Just after `Run`. -/
def NewFrameProbeRunner (ProbeIntervalSec : Int) (tracker : QualityTracker) (now : Nat) : ProbeRunner :=
  ⟨probeInterval ProbeIntervalSec, false, false, ⟨now + Second, false⟩, now, none, .select, false,
    tracker, 0, 0, [], 0⟩

/-- `loop` is a step outside of the select, with what the call that it makes returns. Calls of
`Close` come one after the other. -/
inductive Event where
  | tick
  | elapse (time : Nat)
  | TriggerProbe
  | Close
  | closeChannel
  | select (c : Case)
  | loop (r : Result)
  deriving DecidableEq, Repr

/-- The last probe is so near that one that is not forced is left out. -/
def tooSoon (s : ProbeRunner) (now : Nat) : Bool :=
  s.lastProbe.any fun (last : Nat) => (now : Int) - last < s.interval

def loopStep (s : ProbeRunner) (r : Result) : Option ProbeRunner :=
  match s.loop with
  | .select | .returned => none
  | .Now force => some { s with loop := .maybeProbe s.clock force }
  | .maybeProbe now force => some <|
    if !force ∧ s.tooSoon now then { s with loop := .select }
    else { s with lastProbe := some now, loop := .Probe, probes := s.probes ++ [(now, force)] }
  | .Probe =>
    some { s with
      loop := if s.channel then .record (.error "probe channel closed") else .GetProbeStream }
  | .GetProbeStream => some <| match r with
    | .error err => { s with loop := .record (.error err) }
    | .rtt _ => { s with loop := .WrapProbeDst, opened := s.opened + 1 }
  | .WrapProbeDst => some <| match r with
    | .error err => { s with loop := .Close (.error err) }
    | .rtt _ => { s with loop := .streamProbe }
  | .streamProbe => some { s with loop := .Close r }
  | .Close r => some { s with loop := .record r, shut := s.shut + 1 }
  | .record r => some { s with
      loop := .select
      tracker := match r with
        | .rtt d => s.tracker.RecordProbeSuccess s.clock d
        | .error err => s.tracker.RecordProbeFailure s.clock (some err) }

def selectStep (s : ProbeRunner) (c : Case) : Option ProbeRunner :=
  match s.loop, c with
  | .select, .tick =>
    if s.ticker.C then some { s with ticker := { s.ticker with C := false }, loop := .Now false }
    else none
  | .select, .wake => if s.wake then some { s with wake := false, loop := .Now true } else none
  | .select, .close => if s.close then some { s with loop := .returned } else none
  | _, _ => none

def step (s : ProbeRunner) : Event → Option ProbeRunner
  | .tick =>
    if s.ticker.next ≤ s.clock then some { s with ticker := ⟨s.ticker.next + Second, true⟩ }
    else none
  | .elapse time => some { s with clock := s.clock + time }
  | .TriggerProbe => some { s with wake := true, triggers := s.triggers + 1 }
  | .Close => some { s with close := true }
  | .closeChannel => some { s with channel := true }
  | .select c => s.selectStep c
  | .loop r => s.loopStep r

def system (ProbeIntervalSec : Int) (tracker : QualityTracker) : System ProbeRunner Event where
  start s := ∃ now, s = NewFrameProbeRunner ProbeIntervalSec tracker now
  step := step

/-! What a step can do. -/

inductive Steps (s : ProbeRunner) : Event → ProbeRunner → Prop
  | ticks (due : s.ticker.next ≤ s.clock) :
      Steps s .tick { s with ticker := ⟨s.ticker.next + Second, true⟩ }
  | elapses (time : Nat) : Steps s (.elapse time) { s with clock := s.clock + time }
  | triggers : Steps s .TriggerProbe { s with wake := true, triggers := s.triggers + 1 }
  | closes : Steps s .Close { s with close := true }
  | closesChannel : Steps s .closeChannel { s with channel := true }
  | ticked (here : s.loop = .select) (ticked : s.ticker.C = true) :
      Steps s (.select .tick) { s with ticker := { s.ticker with C := false }, loop := .Now false }
  | woken (here : s.loop = .select) (woken : s.wake = true) :
      Steps s (.select .wake) { s with wake := false, loop := .Now true }
  | ends (here : s.loop = .select) (closed : s.close = true) :
      Steps s (.select .close) { s with loop := .returned }
  | Now {r : Result} {force : Bool} (here : s.loop = .Now force) :
      Steps s (.loop r) { s with loop := .maybeProbe s.clock force }
  | skips {r : Result} {now : Nat} (here : s.loop = .maybeProbe now false)
      (soon : s.tooSoon now = true) :
      Steps s (.loop r) { s with loop := .select }
  | starts {r : Result} {now : Nat} {force : Bool} (here : s.loop = .maybeProbe now force)
      (due : force = true ∨ s.tooSoon now = false) :
      Steps s (.loop r)
        { s with lastProbe := some now, loop := .Probe, probes := s.probes ++ [(now, force)] }
  | moves {r : Result} {next : LoopAt} (here : s.loop.probing = true) (there : next.probing = true)
      (holds : next.holds = s.loop.holds)
      (lower : next.rank < s.loop.rank) : Steps s (.loop r) { s with loop := next }
  | opens {r : Result} (here : s.loop = .GetProbeStream) :
      Steps s (.loop r) { s with loop := .WrapProbeDst, opened := s.opened + 1 }
  | shuts {r r' : Result} (here : s.loop = .Close r') :
      Steps s (.loop r) { s with loop := .record r', shut := s.shut + 1 }
  | success {r : Result} {d : Int} (here : s.loop = .record (.rtt d)) :
      Steps s (.loop r) { s with loop := .select, tracker := s.tracker.RecordProbeSuccess s.clock d }
  | failure {r : Result} {err : String} (here : s.loop = .record (.error err)) :
      Steps s (.loop r)
        { s with loop := .select, tracker := s.tracker.RecordProbeFailure s.clock (some err) }

variable {s s' : ProbeRunner}

theorem loopStep_steps {r : Result} (next : s.loopStep r = some s') : Steps s (.loop r) s' := by
  unfold loopStep at next
  split at next
  · contradiction
  · contradiction
  · rename_i force here
    cases next
    exact .Now here
  · rename_i now force here
    split_ifs at next with soon
    · cases next
      obtain ⟨free, soon⟩ := soon
      obtain rfl : force = false := Bool.not_eq_true' force ▸ free
      exact .skips here soon
    · cases next
      refine .starts here ?_
      rw [not_and_or, Bool.not_eq_true, Bool.not_eq_false', Bool.not_eq_true] at soon
      exact soon
  · rename_i here
    cases next
    refine .moves (by rw [here]; rfl) ?_ ?_ ?_
    · split_ifs <;> rfl
    · rw [here]
      split_ifs <;> rfl
    · rw [here]
      split_ifs <;> decide
  · rename_i here
    cases next
    split
    · exact .moves (by rw [here]; rfl) rfl (by rw [here]; rfl)
        (by rw [here]; simp only [LoopAt.rank]; decide)
    · exact .opens here
  · rename_i here
    cases next
    split
    · exact .moves (by rw [here]; rfl) rfl (by rw [here]; rfl)
        (by rw [here]; simp only [LoopAt.rank]; decide)
    · exact .moves (by rw [here]; rfl) rfl (by rw [here]; rfl)
        (by rw [here]; simp only [LoopAt.rank]; decide)
  · rename_i here
    cases next
    exact .moves (by rw [here]; rfl) rfl (by rw [here]; rfl)
      (by rw [here]; simp only [LoopAt.rank]; decide)
  · rename_i here
    cases next
    exact .shuts here
  · rename_i result here
    cases next
    cases result with
    | rtt d => exact .success here
    | error err => exact .failure here

theorem step_steps {e : Event} (next : s.step e = some s') : Steps s e s' := by
  cases e with
  | tick =>
    rw [step] at next
    split_ifs at next with due
    cases next
    exact .ticks due
  | elapse time =>
    cases next
    exact .elapses time
  | TriggerProbe =>
    cases next
    exact .triggers
  | Close =>
    cases next
    exact .closes
  | closeChannel =>
    cases next
    exact .closesChannel
  | select c =>
    change s.selectStep c = some s' at next
    unfold selectStep at next
    split at next
    · rename_i here
      split_ifs at next with ticked
      cases next
      exact .ticked here ticked
    · rename_i here
      split_ifs at next with woken
      cases next
      exact .woken here woken
    · rename_i here
      split_ifs at next with closed
      cases next
      exact .ends here closed
    · contradiction
  | loop r => exact loopStep_steps next

/-! What holds in every state. -/

/-- Probes that have been recorded, with the ones before `Run`. -/
def total (q : QualityTracker) : Nat := q.probeSuccessTotal + q.probeFailureTotal

theorem total_success (q : QualityTracker) (now d : Int) :
    total (q.RecordProbeSuccess now d) = total q + 1 := by
  simp only [total, QualityTracker.RecordProbeSuccess, QualityTracker.appendSample, QualityTracker.note]
  exact Nat.add_right_comm ..

/-- A probe that is not forced starts an interval after the one before it. -/
def Spaced (interval : Int) (a b : Nat × Bool) : Prop := b.2 = true ∨ interval ≤ (b.1 : Int) - a.1

structure Sound (before : Nat) (s : ProbeRunner) : Prop where
  spaced : s.probes.IsChain (Spaced s.interval)
  last : s.lastProbe = s.probes.getLast?.map Prod.fst
  recorded : total s.tracker + s.loop.probing.toNat = before + s.probes.length
  streams : s.opened = s.shut + s.loop.holds.toNat
  triggered : s.probes.countP (·.2) + s.wake.toNat + s.loop.forced.toNat ≤ s.triggers

theorem Sound.step {before : Nat} {e : Event} (sound : Sound before s)
    (next : s.step e = some s') : Sound before s' := by
  obtain ⟨spaced, last, recorded, streams, triggered⟩ := sound
  cases step_steps next with
  | ticks | elapses | closes | closesChannel => exact ⟨spaced, last, recorded, streams, triggered⟩
  | triggers =>
    refine ⟨spaced, last, recorded, streams, ?_⟩
    have bound : s.wake.toNat ≤ 1 := Bool.toNat_le _
    show s.probes.countP (·.2) + 1 + s.loop.forced.toNat ≤ s.triggers + 1
    omega
  | ticked here | ends here =>
    rw [here] at recorded streams triggered
    exact ⟨spaced, last, recorded, streams, triggered⟩
  | woken here woken =>
    rw [here] at recorded streams triggered
    rw [woken] at triggered
    exact ⟨spaced, last, recorded, streams, triggered⟩
  | Now here | skips here =>
    rw [here] at recorded streams triggered
    exact ⟨spaced, last, recorded, streams, triggered⟩
  | starts here due =>
    rename_i now force
    rw [here] at recorded streams triggered
    refine ⟨?_, ?_, ?_, streams, ?_⟩
    · refine List.isChain_append.mpr ⟨spaced, .singleton _, fun a ends b begins => ?_⟩
      obtain rfl := Option.some.inj begins
      refine due.imp_right fun free => ?_
      rw [tooSoon, last, Option.mem_def.mp ends] at free
      simpa using free
    · rw [List.getLast?_concat]
      rfl
    · rw [List.length_append]
      exact congrArg (· + 1) recorded
    · rw [countP_concat]
      show s.probes.countP (·.2) + force.toNat + s.wake.toNat + 0 ≤ s.triggers
      have same : LoopAt.forced (.maybeProbe now force) = force := rfl
      rw [same] at triggered
      omega
  | moves here there holds =>
    rename_i next
    have calm {l : LoopAt} (probing : l.probing = true) : l.forced = false := by
      cases l <;> first | rfl | exact absurd probing Bool.false_ne_true
    rw [here] at recorded
    rw [calm here] at triggered
    refine ⟨spaced, last, ?_, ?_, ?_⟩
    · rw [there]
      exact recorded
    · rw [holds]
      exact streams
    · rw [calm there]
      exact triggered
  | opens here =>
    rw [here] at recorded streams triggered
    exact ⟨spaced, last, recorded, congrArg (· + 1) streams, triggered⟩
  | shuts here =>
    rw [here] at recorded streams triggered
    exact ⟨spaced, last, recorded, streams, triggered⟩
  | success here =>
    rw [here] at recorded streams triggered
    exact ⟨spaced, last, by rw [total_success]; exact recorded, streams, triggered⟩
  | failure here =>
    rw [here] at recorded streams triggered
    exact ⟨spaced, last, recorded, streams, triggered⟩

theorem sound_reachable {ProbeIntervalSec : Int} {tracker : QualityTracker}
    (reachable : (system ProbeIntervalSec tracker).Reachable s) : Sound (total tracker) s := by
  refine reachable.invariant (Sound (total tracker)) ?_ fun _ _ _ sound next => sound.step next
  rintro _ ⟨now, rfl⟩
  exact ⟨.nil, rfl, rfl, rfl, Nat.le_refl 0⟩

theorem interval_reachable {ProbeIntervalSec : Int} {tracker : QualityTracker}
    (reachable : (system ProbeIntervalSec tracker).Reachable s) :
    s.interval = probeInterval ProbeIntervalSec := by
  refine reachable.invariant
    (fun s => s.interval = probeInterval ProbeIntervalSec) ?_ fun s e s' same next => ?_
  · rintro _ ⟨now, rfl⟩
    rfl
  · cases step_steps next <;> exact same

/-- In every run a probe that nobody asked for starts an interval after the one before it, there are
no more forced probes than calls of `TriggerProbe`, every probe but the one that is going on is
recorded once, and has its stream closed. -/
theorem probes_sound {ProbeIntervalSec : Int} {tracker : QualityTracker}
    (reachable : (system ProbeIntervalSec tracker).Reachable s) :
    s.probes.IsChain (Spaced (probeInterval ProbeIntervalSec)) ∧ s.probes.countP (·.2) ≤ s.triggers ∧
      total s.tracker + s.loop.probing.toNat = total tracker + s.probes.length ∧
        s.opened = s.shut + s.loop.holds.toNat := by
  obtain ⟨spaced, _, recorded, streams, triggered⟩ := sound_reachable reachable
  rw [interval_reachable reachable] at spaced
  exact ⟨spaced, by omega, recorded, streams⟩

/-- A probe that was asked for, and then one for which no stream can be opened. -/
def asked : List Event :=
  [.TriggerProbe, .select .wake, .loop (.rtt 0), .loop (.rtt 0), .loop (.rtt 0), .loop (.rtt 0),
    .loop (.rtt 0), .loop (.rtt 5000000),
    .loop (.rtt 0), .loop (.rtt 0), .elapse 2000000000, .tick, .select .tick, .loop (.rtt 0),
      .loop (.rtt 0), .loop (.rtt 0),
    .loop (.error "refused"), .loop (.rtt 0)]

theorem probes_sound_asked :
    ∃ s : ProbeRunner, s.probes = [(0, true), (2000000000, false)] ∧ s.shut = 1 ∧
    s.probes.IsChain (Spaced (probeInterval 2)) ∧ total s.tracker = 2 := by
  let tracker := NewQualityTracker "service" "output" none none true 0
  have played : ((system 2 tracker).play (fun _ _ => true) asked
    (NewFrameProbeRunner 2 tracker 0)).any (fun s =>
      decide (s.probes = [(0, true), (2000000000, false)] ∧ s.shut = 1 ∧ s.loop = .select)) =
        true := by decide
  obtain ⟨s, reached, sees⟩ := (Option.any_eq_true _ _).mp played
  obtain ⟨probes, shut, select⟩ := of_decide_eq_true sees
  obtain ⟨spaced, _, recorded, _⟩ := probes_sound (System.Reachable.of_play ⟨0, rfl⟩ reached)
  rw [select, probes] at recorded
  exact ⟨s, probes, shut, spaced, recorded⟩

end ProbeRunner

end Gotun.Tun
