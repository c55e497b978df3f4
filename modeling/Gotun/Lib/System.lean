import Mathlib.Logic.Basic

/-! Systems of states and events, and what holds along all of their runs. -/

namespace Gotun.Lib

/-- An event that cannot happen in a state has no state after it. -/
structure System (σ ε : Type) where
  start : σ → Prop
  step : σ → ε → Option σ

namespace System

variable {σ ε : Type} {sys : System σ ε} {allowed : σ → ε → Prop}

/-- The runs all of whose steps are allowed, each with the state it reaches. -/
inductive Run (sys : System σ ε) (allowed : σ → ε → Prop) : List ε → σ → Prop
  | start {s : σ} (starts : sys.start s) : Run sys allowed [] s
  | step {events : List ε} {s s' : σ} {e : ε} (before : Run sys allowed events s) (ok : allowed s e)
      (next : sys.step s e = some s') : Run sys allowed (events ++ [e]) s'

def Reachable (sys : System σ ε) (s : σ) : Prop := ∃ events, sys.Run (fun _ _ => True) events s

/-- What holds at the start and is kept by every allowed step holds after every such run. -/
theorem Run.invariant (Inv : σ → Prop) (starts : ∀ s, sys.start s → Inv s)
    (steps : ∀ s e s', Inv s → allowed s e → sys.step s e = some s' → Inv s') {events : List ε} {s : σ}
    (run : sys.Run allowed events s) : Inv s := by
  induction run with
  | start begins => exact starts _ begins
  | step _ ok next held => exact steps _ _ _ held ok next

theorem Reachable.invariant (Inv : σ → Prop) (starts : ∀ s, sys.start s → Inv s)
    (steps : ∀ s e s', Inv s → sys.step s e = some s' → Inv s') {s : σ}
    (reachable : sys.Reachable s) : Inv s := by
  obtain ⟨events, run⟩ := reachable
  exact run.invariant Inv starts fun s e s' held _ next => steps s e s' held next

/-- The state after the events, if all of them can happen and are allowed. -/
def play (sys : System σ ε) (ok : σ → ε → Bool) : List ε → σ → Option σ
  | [], s => some s
  | e :: rest, s => if ok s e then (sys.step s e).bind (sys.play ok rest) else none

/-- What every step keeps, the events that are played keep. -/
theorem play_invariant (Inv : σ → Prop) (steps : ∀ s e s', Inv s → sys.step s e = some s' → Inv s')
    {ok : σ → ε → Bool} {events : List ε} {s s' : σ} (held : Inv s)
    (played : sys.play ok events s = some s') : Inv s' := by
  induction events generalizing s with
  | nil => exact Option.some.inj played ▸ held
  | cons e rest ih =>
    rw [System.play] at played
    split at played
    · obtain ⟨t, next, played⟩ := Option.bind_eq_some_iff.mp played
      exact ih (steps s e t held next) played
    · contradiction

theorem play_append {ok : σ → ε → Bool} {first later : List ε} {s s' s'' : σ}
    (played : sys.play ok first s = some s') (played' : sys.play ok later s' = some s'') :
    sys.play ok (first ++ later) s = some s'' := by
  induction first generalizing s with
  | nil => rwa [← Option.some.inj played] at played'
  | cons e rest ih =>
    rw [List.cons_append, System.play]
    rw [System.play] at played
    split at played
    · rename_i allowed
      obtain ⟨t, next, played⟩ := Option.bind_eq_some_iff.mp played
      rw [if_pos allowed, next]
      exact ih played
    · contradiction

theorem play_split {ok : σ → ε → Bool} {first later : List ε} {s s' : σ}
    (played : sys.play ok (first ++ later) s = some s') :
    ∃ t, sys.play ok first s = some t ∧ sys.play ok later t = some s' := by
  induction first generalizing s with
  | nil => exact ⟨s, rfl, played⟩
  | cons e rest ih =>
    rw [List.cons_append, System.play] at played
    rw [System.play]
    split at played
    · rename_i allowed
      obtain ⟨t, next, played⟩ := Option.bind_eq_some_iff.mp played
      rw [if_pos allowed, next]
      exact ih played
    · contradiction

theorem Run.play {ok : σ → ε → Bool} {events : List ε} {s : σ}
    (run : sys.Run (fun s e => ok s e = true) events s) (later : List ε) {s' : σ}
    (played : sys.play ok later s = some s') :
    sys.Run (fun s e => ok s e = true) (events ++ later) s' := by
  induction later generalizing events s with
  | nil =>
    rw [List.append_nil]
    exact Option.some.inj played ▸ run
  | cons e rest ih =>
    rw [System.play] at played
    split at played
    · rename_i allowed
      obtain ⟨t, next, played⟩ := Option.bind_eq_some_iff.mp played
      rw [List.append_cons]
      exact ih (run.step allowed next) played
    · contradiction

theorem Run.mono {allowed' : σ → ε → Prop} (more : ∀ s e, allowed s e → allowed' s e)
    {events : List ε} {s : σ} (run : sys.Run allowed events s) : sys.Run allowed' events s := by
  induction run with
  | start begins => exact .start begins
  | step _ ok next before => exact before.step (more _ _ ok) next

theorem Reachable.of_play {s s' : σ} {events : List ε} (begins : sys.start s)
    (played : sys.play (fun _ _ => true) events s = some s') : sys.Reachable s' :=
  ⟨events, ((Run.start begins).play events played).mono fun _ _ _ => trivial⟩

/-- Events that can all happen and are allowed, and what is then seen of the state. -/
theorem Run.of_play {ok : σ → ε → Bool} {s : σ} {events : List ε} {seen : σ → Bool}
    (begins : sys.start s) (played : (sys.play ok events s).any seen = true) :
    ∃ s', sys.Run (fun s e => ok s e = true) events s' ∧ seen s' = true := by
  obtain ⟨s', reached, sees⟩ := (Option.any_eq_true seen _).mp played
  exact ⟨s', (Run.start begins).play events reached, sees⟩

end System

end Gotun.Lib
