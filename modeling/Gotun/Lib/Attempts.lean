import Mathlib.Data.List.Basic
import Mathlib.Tactic.Basic

/-! Asking the members of a list in turn until one of them succeeds. A call may change the state
that the later calls meet. -/

namespace Gotun.Lib

variable {α β σ : Type} {call : α → σ → Option β × σ}

/-- Every member of the list is asked in turn and refuses. -/
def Refused (call : α → σ → Option β × σ) : List α → σ → σ → Prop
  | [], s, t => t = s
  | a :: rest, s, t => (call a s).1 = none ∧ Refused call rest (call a s).2 t

/-- The first member that succeeds, with what it gave, and the state after it; nobody behind it is
asked. -/
def FirstOf (call : α → σ → Option β × σ) (asked : List α) (s : σ) (found : Option (α × β))
    (t : σ) : Prop :=
  (found = none ∧ Refused call asked s t) ∨
  ∃ before a after b u, asked = before ++ a :: after ∧ Refused call before s u ∧ call a u = (some b, t) ∧
    found = some (a, b)

theorem FirstOf.nil (call : α → σ → Option β × σ) (s : σ) : FirstOf call [] s none s := Or.inl ⟨rfl, rfl⟩

theorem FirstOf.here {a : α} {b : β} {s t : σ} (answer : call a s = (some b, t)) (rest : List α) :
    FirstOf call (a :: rest) s (some (a, b)) t := Or.inr ⟨[], a, rest, b, s, rfl, rfl, answer, rfl⟩

theorem FirstOf.next {a : α} {rest : List α} {s u t : σ} {found : Option (α × β)}
    (answer : call a s = (none, u)) (later : FirstOf call rest u found t) :
    FirstOf call (a :: rest) s found t := by
  have refused : (call a s).1 = none := congrArg Prod.fst answer
  have state : (call a s).2 = u := congrArg Prod.snd answer
  rcases later with ⟨none_found, all⟩ | ⟨before, b, after, given, v, split, earlier, success, result⟩
  · exact Or.inl ⟨none_found, refused, state ▸ all⟩
  · refine Or.inr ⟨a :: before, b, after, given, v, ?_, ⟨refused, state ▸ earlier⟩, success, result⟩
    rw [split, List.cons_append]

end Gotun.Lib
