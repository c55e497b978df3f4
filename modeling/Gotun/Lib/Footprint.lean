import Gotun.Lib.Script

/-! What the calls of a program can change, of a state that is a map. -/

namespace Gotun.Lib.Script

variable {ι σ α β : Type}

/-- Every call that is made in a run from a state. -/
def Each (P : (σ → Except Err Bool × σ) → σ → Prop) : Script ι σ α → σ → Prop
  | .done _, _ => True
  | .call _ run next, s => P run s ∧ (next (run s).1).Each P (run s).2

section each

variable {P : (σ → Except Err Bool × σ) → σ → Prop} {x : Script ι σ α} {s : σ}

theorem each_bind {f : α → Script ι σ β} :
    (x >>= f).Each P s ↔ x.Each P s ∧ ∀ a, (x.exec s).1 = .ok a → (f a).Each P (x.exec s).2 := by
  induction x generalizing s with
  | done result =>
    cases result with
    | ok a =>
      constructor
      · intro rest
        refine ⟨trivial, ?_⟩
        rintro _ ⟨⟩
        exact rest
      · exact fun both => both.2 a rfl
    | error e => exact iff_of_true trivial ⟨trivial, fun _ failed => nomatch failed⟩
  | call label run next ih => exact (and_congr_right fun _ => ih _).trans and_assoc.symm

theorem each_handle {f : Err → Script ι σ α} :
    (x.handle f).Each P s ↔ x.Each P s ∧ ∀ e, (x.exec s).1 = .error e → (f e).Each P (x.exec s).2 := by
  induction x generalizing s with
  | done result =>
    cases result with
    | ok a => exact iff_of_true trivial ⟨trivial, fun _ succeeded => nomatch succeeded⟩
    | error e =>
      constructor
      · intro rest
        refine ⟨trivial, ?_⟩
        rintro _ ⟨⟩
        exact rest
      · exact fun both => both.2 e rfl
  | call label run next ih => exact (and_congr_right fun _ => ih _).trans and_assoc.symm

theorem each_ending {last : Script ι σ β} {result : Except Err α} :
    (last.ending result).Each P s ↔ last.Each P s := by
  induction last generalizing s with
  | done _ => exact Iff.rfl
  | call label run next ih => exact and_congr_right fun _ => ih _

theorem each_defer {last : Script ι σ β} :
    (x.defer last).Each P s ↔ x.Each P s ∧ last.Each P (x.exec s).2 := by
  induction x generalizing s with
  | done result => exact each_ending.trans (and_iff_right trivial).symm
  | call label run next ih => exact (and_congr_right fun _ => ih _).trans and_assoc.symm

theorem each_request {label : ι} {run : σ → Except Err Bool × σ} :
    (request label run).Each P s ↔ P run s :=
  and_iff_left trivial

end each

/-! Maps. -/

variable {κ ν : Type} {inside : κ → Prop} {run : (κ → ν) → Except Err Bool × (κ → ν)} {s : κ → ν}

/-- A call that changes nothing outside, whatever the map is, or that fails and changes nothing. -/
def Within (inside : κ → Prop) (run : (κ → ν) → Except Err Bool × (κ → ν)) (s : κ → ν) : Prop :=
  (∀ t key, ¬ inside key → (run t).2 key = t key) ∨ ∃ e, run s = (.error e, s)

theorem Within.frame (within : Within inside run s) {key : κ}
    (outside : ¬ inside key) : (run s).2 key = s key := by
  rcases within with always | ⟨e, failed⟩
  · exact always s key outside
  · rw [failed]

/-- At every moment of the run, what is outside is as it was. -/
theorem Each.frame {x : Script ι (κ → ν) α} (each : x.Each (Within inside) s) (n : Nat) {key : κ}
    (outside : ¬ inside key) :
    x.killed n s key = s key := by
  induction x generalizing s n with
  | done result => rfl
  | call label run next ih =>
    obtain ⟨first, rest⟩ := each
    cases n with
    | zero => rfl
    | succ n => exact (ih _ rest n).trans (first.frame outside)

end Gotun.Lib.Script
