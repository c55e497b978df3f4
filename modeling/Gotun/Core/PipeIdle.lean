import Gotun.Core.PipeEnding

/-! The idle monitor of `Pipe` in time: it cuts a pipe that has been silent for the timeout at the
next tick, and leaves a pipe alone that is never silent for so long. -/

namespace Gotun.Core.PipeState
open Gotun.Lib Copying
variable {σ τ ε ε' : Type} {L : Endpoint σ ε} {R : Endpoint τ ε'} {timeout : Nat} {CutL : σ → Prop}
  {CutR : τ → Prop} {heldL : σ → Nat} {heldR : τ → Nat} {s s' : PipeState σ τ} {e : PipeEvent ε ε'}
  {left : σ} {right : τ}

/-- The monitor is woken in time: no time passes while it has something to do, or beyond the next
tick. -/
def timely (s : PipeState σ τ) : PipeEvent ε ε' → Bool
  | .elapse time =>
      s.monitor = .returned ∨
        (s.monitor = .select ∧ s.ticker.C = false ∧ s.stopMonitor = false ∧
          s.vars.clock + time ≤ s.ticker.next)
  | _ => true

/-- A chunk arrives before the pipe has been silent for longer than the timeout. -/
def busy (timeout : Nat) (s : PipeState σ τ) : PipeEvent ε ε' → Bool
  | .elapse time =>
    timely s (.elapse time : PipeEvent ε ε') ∧ s.vars.clock + time ≤ s.vars.lastActivity + timeout
  | _ => true

/-- What the clock shows at each point of the monitor. A tick is seen at the time at which it was
sent. -/
def Watched (timeout : Nat) (CutL : σ → Prop) (CutR : τ → Prop) (s : PipeState σ τ) : MonitorAt → Prop
  | .select =>
      if s.ticker.C then s.ticker.next = s.vars.clock + Second
      else s.vars.clock ≤ s.ticker.next ∧ s.ticker.next ≤ s.vars.lastActivity + timeout + Second
  | .load => s.ticker.next = s.vars.clock + Second
  | .check last => s.ticker.next = s.vars.clock + Second ∧ last ≤ s.vars.lastActivity
  | .SetLeft => s.ticker.next = s.vars.clock + Second
  | .SetRight => s.ticker.next = s.vars.clock + Second ∧ CutL s.left
  | .returned => s.stopMonitor = true ∨ CutL s.left ∧ CutR s.right

structure Watching (timeout : Nat) (CutL : σ → Prop) (CutR : τ → Prop) (s : PipeState σ τ) : Prop where
  past : s.vars.lastActivity ≤ s.vars.clock
  soon : s.monitor ≠ .returned → s.vars.clock ≤ s.vars.lastActivity + timeout + Second
  watched : Watched timeout CutL CutR s s.monitor

/-- What the goroutines do does not turn the clock, and the last activity is never earlier for it. -/
structure Undisturbed (CutL : σ → Prop) (CutR : τ → Prop) (s s' : PipeState σ τ) : Prop where
  clock : s'.vars.clock = s.vars.clock
  activity : s'.vars.lastActivity = s.vars.lastActivity ∨ s'.vars.lastActivity = s.vars.clock
  ticker : s'.ticker = s.ticker
  monitor : s'.monitor = s.monitor
  stop : s.stopMonitor = true → s'.stopMonitor = true
  left : CutL s.left → CutL s'.left
  right : CutR s.right → CutR s'.right

theorem Undisturbed.watching (same : Undisturbed CutL CutR s s')
    (watching : Watching timeout CutL CutR s) :
    Watching timeout CutL CutR s' := by
  obtain ⟨past, soon, watched⟩ := watching
  have later : s.vars.lastActivity ≤ s'.vars.lastActivity := by
    rcases same.activity with activity | activity <;> omega
  refine ⟨?_, fun going => ?_, ?_⟩
  · rw [same.clock]
    rcases same.activity with activity | activity <;> omega
  · rw [same.clock]
    exact (soon (same.monitor ▸ going)).trans (by omega)
  · rw [same.monitor]
    cases at_ : s.monitor <;> rw [at_] at watched <;> simp only [Watched] at watched ⊢
    · rw [same.ticker, same.clock]
      split_ifs at watched ⊢
      · exact watched
      · omega
    · rw [same.ticker, same.clock]
      exact watched
    · rw [same.ticker, same.clock]
      exact ⟨watched.1, watched.2.trans later⟩
    · rw [same.ticker, same.clock]
      exact watched
    · rw [same.ticker, same.clock]
      exact ⟨watched.1, same.left watched.2⟩
    · exact watched.imp same.stop (And.imp same.left same.right)

/-- The steps of the goroutines and of the far sides. -/
theorem Steps.undisturbed (wakesL : L.Wakes CutL heldL) (wakesR : R.Wakes CutR heldR)
    (steps : Steps L R timeout s e s')
    (other : (∀ stop, e ≠ .monitor stop) ∧ e ≠ .tick ∧ ∀ time, e ≠ .elapse time) :
    Undisturbed CutL CutR s s' := by
  cases steps with
  | forward here steps =>
    have vars : _ := steps.vars
    exact ⟨vars.1, vars.2, rfl, rfl, id, steps.source wakesL, fun cut => ((steps.cuts wakesR).1 cut).1⟩
  | back steps =>
    have vars : _ := steps.vars
    exact ⟨vars.1, vars.2, rfl, rfl, id, fun cut => ((steps.cuts wakesL).1 cut).1, steps.source wakesR⟩
  | close here sent => exact ⟨rfl, Or.inl rfl, rfl, rfl, fun _ => rfl, id, id⟩
  | first here got => exact ⟨rfl, Or.inl rfl, rfl, rfl, id, id, id⟩
  | second here got => exact ⟨rfl, Or.inl rfl, rfl, rfl, id, id, id⟩
  | left moves => exact ⟨rfl, Or.inl rfl, rfl, rfl, id, fun cut => (wakesL.world cut moves).1, id⟩
  | right moves => exact ⟨rfl, Or.inl rfl, rfl, rfl, id, id, fun cut => (wakesR.world cut moves).1⟩
  | tick due => exact absurd rfl other.2.1
  | elapse time => exact absurd rfl (other.2.2 time)
  | stop here closed => exact absurd rfl (other.1 _)
  | ticked here ticked => exact absurd rfl (other.1 _)
  | load here => exact absurd rfl (other.1 _)
  | check here => exact absurd rfl (other.1 _)
  | setLeft here => exact absurd rfl (other.1 _)
  | setRight here => exact absurd rfl (other.1 _)

/-- A step of the monitor finds the clock where the tick was, and leaves it there. -/
theorem Watching.monitor (wakesL : L.Wakes CutL heldL) (wakesR : R.Wakes CutR heldR)
    (watching : Watching timeout CutL CutR s) {stop : Bool}
    (steps : Steps L R timeout s (.monitor stop) s') : Watching timeout CutL CutR s' := by
  obtain ⟨past, soon, watched⟩ := watching
  cases steps with
  | stop here closed => exact ⟨past, fun going => absurd rfl going, Or.inl closed⟩
  | ticked here ticked =>
    rw [here, Watched, if_pos ticked] at watched
    exact ⟨past, fun _ => soon (here ▸ nofun), watched⟩
  | load here =>
    rw [here] at watched
    exact ⟨past, fun _ => soon (here ▸ nofun), watched, Nat.le_refl _⟩
  | check here =>
    rename_i last
    rw [here] at watched
    obtain ⟨tick, before⟩ := watched
    have soon := soon (here ▸ nofun)
    refine ⟨past, fun _ => soon, ?_⟩
    dsimp only
    split_ifs with silent
    · exact tick
    · rw [Watched]
      dsimp only
      split_ifs
      · exact tick
      · omega
  | setLeft here =>
    rw [here] at watched
    exact ⟨past, fun _ => soon (here ▸ nofun), watched, wakesL.sets s.left⟩
  | setRight here =>
    rw [here] at watched
    exact ⟨past, fun going => absurd rfl going, Or.inr ⟨watched.2, wakesR.sets s.right⟩⟩

theorem Watching.step (wakesL : L.Wakes CutL heldL) (wakesR : R.Wakes CutR heldR)
    (watching : Watching timeout CutL CutR s) (ok : timely s e = true)
    (steps : Steps L R timeout s e s') : Watching timeout CutL CutR s' := by
  cases e with
  | monitor stop => exact watching.monitor wakesL wakesR steps
  | tick =>
    obtain ⟨past, soon, watched⟩ := watching
    cases steps with
    | tick due =>
      refine ⟨past, soon, ?_⟩
      -- A tick is due only while the monitor waits for it, or after its end.
      cases at_ : s.monitor <;> rw [at_] at watched <;> simp only [Watched, Second] at watched ⊢
      · rw [if_pos trivial]
        split_ifs at watched <;> omega
      · omega
      · omega
      · omega
      · omega
      · exact watched
  | elapse time =>
    obtain ⟨past, soon, watched⟩ := watching
    cases steps with
    | elapse time =>
      simp only [timely, decide_eq_true_eq] at ok
      rcases ok with ended | ⟨select, no_tick, open_, inside⟩
      · rw [ended] at watched
        refine ⟨Nat.le_add_right_of_le past, fun going => absurd ended going, ?_⟩
        rw [ended]
        exact watched
      · rw [select, Watched, no_tick, if_neg Bool.false_ne_true] at watched
        refine ⟨Nat.le_add_right_of_le past, fun _ => ?_, ?_⟩
        · dsimp only
          omega
        · rw [select, Watched]
          dsimp only
          rw [no_tick, if_neg Bool.false_ne_true]
          exact ⟨inside, watched.2⟩
  | main => exact (steps.undisturbed wakesL wakesR ⟨nofun, nofun, nofun⟩).watching watching
  | goroutine => exact (steps.undisturbed wakesL wakesR ⟨nofun, nofun, nofun⟩).watching watching
  | left e => exact (steps.undisturbed wakesL wakesR ⟨nofun, nofun, nofun⟩).watching watching
  | right e => exact (steps.undisturbed wakesL wakesR ⟨nofun, nofun, nofun⟩).watching watching

theorem watching_start (timeout : Nat) (CutL : σ → Prop) (CutR : τ → Prop) (left : σ) (right : τ)
    (now : Nat) :
    Watching timeout CutL CutR (start left right now) := by
  refine ⟨Nat.le_refl _, fun _ => Nat.le_add_right_of_le (Nat.le_add_right ..), ?_⟩
  simp only [start, Watched, Bool.false_eq_true, if_false]
  omega

/-- Silence: unless the call is already at its end, both streams are cut before the pipe has been
silent for longer than the timeout and one second. -/
theorem pipe_idle_cut (wakesL : L.Wakes CutL heldL) (wakesR : R.Wakes CutR heldR)
    {events : List (PipeEvent ε ε')}
    (run : (system L R timeout left right).Run (fun s e => timely s e = true) events s) :
    s.stopMonitor = true ∨ (CutL s.left ∧ CutR s.right) ∨
      s.vars.clock ≤ s.vars.lastActivity + timeout + Second := by
  have watching : Watching timeout CutL CutR s := by
    refine run.invariant (Watching timeout CutL CutR) ?_ fun s e s' watching ok next =>
      watching.step wakesL wakesR ok (step_steps next)
    rintro _ ⟨now, rfl⟩
    exact watching_start timeout CutL CutR left right now
  by_cases ended : s.monitor = .returned
  · have watched := watching.watched
    rw [ended] at watched
    exact watched.imp_right Or.inl
  · exact Or.inr (Or.inr (watching.soon ended))

/-- One tick that finds nothing to do, and the second after it. -/
def silent : List (PipeEvent Socket.Event Socket.Event) :=
  [.elapse Second, .tick, .monitor false, .monitor false, .monitor false, .elapse Second]

theorem pipe_idle_cut_silent : ∃ s, sockets.Run (fun s e => timely s e = true) silent s ∧
    s.vars.clock = s.vars.lastActivity + Second + Second ∧
      (s.stopMonitor = true ∨ (s.left.deadline = true ∧ s.right.deadline = true) ∨
      s.vars.clock ≤ s.vars.lastActivity + Second + Second) := by
  have played : (sockets.play timely silent (start Socket.connected Socket.connected 0)).any (fun s =>
      decide (s.vars.clock = s.vars.lastActivity + Second + Second)) = true := by decide
  obtain ⟨s, run, sees⟩ := System.Run.of_play sockets_start played
  exact ⟨s, run, of_decide_eq_true sees, pipe_idle_cut Socket.wakes Socket.wakes run⟩

/-- A monitor that has found the pipe silent. -/
def Cutting : MonitorAt → Prop
  | .SetLeft | .SetRight => True
  | _ => False

/-- What the monitor sees of a pipe that is never silent. -/
structure Busy (timeout : Nat) (s : PipeState σ τ) : Prop where
  past : s.vars.lastActivity ≤ s.vars.clock
  recent : s.vars.clock ≤ s.vars.lastActivity + timeout
  loaded : ∀ last, s.monitor = .check last → s.vars.clock ≤ last + timeout
  calm : ¬ Cutting s.monitor
  ended : s.monitor = .returned → s.stopMonitor = true

theorem Undisturbed.busy (same : Undisturbed CutL CutR s s')
    (held : Busy timeout s) : Busy timeout s' := by
  obtain ⟨past, recent, loaded, calm, ended⟩ := held
  refine ⟨?_, ?_, fun last at_ => same.clock ▸ loaded last (same.monitor ▸ at_), same.monitor ▸ calm,
    fun at_ => same.stop (ended (same.monitor ▸ at_))⟩
  · rw [same.clock]
    rcases same.activity with activity | activity <;> omega
  · rw [same.clock]
    rcases same.activity with activity | activity <;> omega

theorem Busy.step (wakesL : L.Wakes CutL heldL) (wakesR : R.Wakes CutR heldR) (held : Busy timeout s)
    (ok : busy timeout s e = true) (steps : Steps L R timeout s e s') : Busy timeout s' := by
  cases e with
  | monitor stop =>
    obtain ⟨past, recent, loaded, calm, ended⟩ := held
    cases steps with
    | stop here closed => exact ⟨past, recent, nofun, id, fun _ => closed⟩
    | ticked here ticked => exact ⟨past, recent, nofun, id, nofun⟩
    | load here =>
      refine ⟨past, recent, ?_, id, nofun⟩
      rintro last ⟨⟩
      exact recent
    | check here =>
      rename_i last
      have early : ¬ timeout < s.vars.clock - last := by
        have loaded := loaded last here
        omega
      refine ⟨past, recent, ?_, ?_, ?_⟩ <;> dsimp only <;> rw [if_neg early]
      · exact nofun
      · exact id
      · exact nofun
    | setLeft here => exact absurd (here ▸ trivial) calm
    | setRight here => exact absurd (here ▸ trivial) calm
  | tick =>
    cases steps with
    | tick due => exact { held with }
  | elapse time =>
    obtain ⟨past, recent, loaded, calm, ended⟩ := held
    cases steps with
    | elapse time =>
      simp only [PipeState.busy, timely, Bool.decide_and, Bool.and_eq_true, decide_eq_true_eq] at ok
      obtain ⟨waits, soon⟩ := ok
      refine ⟨Nat.le_add_right_of_le past, soon, fun last at_ => ?_, calm, ended⟩
      rcases waits with ended | ⟨select, _⟩
      · exact absurd (at_.symm.trans ended) nofun
      · exact absurd (at_.symm.trans select) nofun
  | main => exact (steps.undisturbed wakesL wakesR ⟨nofun, nofun, nofun⟩).busy held
  | goroutine => exact (steps.undisturbed wakesL wakesR ⟨nofun, nofun, nofun⟩).busy held
  | left e => exact (steps.undisturbed wakesL wakesR ⟨nofun, nofun, nofun⟩).busy held
  | right e => exact (steps.undisturbed wakesL wakesR ⟨nofun, nofun, nofun⟩).busy held

/-- Traffic: while chunks keep arriving within the timeout, in either direction, the monitor never sets
a deadline, and it ends only when it is told to. -/
theorem pipe_busy_kept (wakesL : L.Wakes CutL heldL) (wakesR : R.Wakes CutR heldR)
    {events : List (PipeEvent ε ε')}
    (run : (system L R timeout left right).Run (fun s e => busy timeout s e = true) events s) :
    ¬ Cutting s.monitor ∧ (s.monitor = .returned → s.stopMonitor = true) := by
  have held : Busy timeout s := by
    refine run.invariant (Busy timeout) ?_ fun s e s' held ok next =>
      held.step wakesL wakesR ok (step_steps next)
    rintro _ ⟨now, rfl⟩
    exact ⟨Nat.le_refl _, Nat.le_add_right .., nofun, id, nofun⟩
  exact ⟨held.calm, held.ended⟩

/-- A chunk arrives just before the second tick. -/
def talking : List (PipeEvent Socket.Event Socket.Event) :=
  [.elapse Second, .tick, .monitor false, .monitor false, .monitor false, .right (.arrive [1]),
    .goroutine, .goroutine, .elapse Second,
    .tick, .monitor false, .monitor false, .monitor false]

theorem pipe_busy_kept_talking :
    ∃ s, sockets.Run (fun s e => busy Second s e = true) talking s ∧ s.vars.clock = 2 * Second ∧
    ¬ Cutting s.monitor ∧ (s.monitor = .returned → s.stopMonitor = true) := by
  have played :
    (sockets.play (busy Second) talking (start Socket.connected Socket.connected 0)).any (fun s =>
      decide (s.vars.clock = 2 * Second)) = true := by decide
  obtain ⟨s, run, sees⟩ := System.Run.of_play sockets_start played
  exact ⟨s, run, of_decide_eq_true sees, pipe_busy_kept Socket.wakes Socket.wakes run⟩

end Gotun.Core.PipeState
