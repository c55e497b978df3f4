import Mathlib.Data.List.Chain

/-! The changes of a value that is set again and again, each with a note on why. Setting it to what
it already is changes nothing, so the changes form a chain without gaps. -/

namespace Gotun.Lib

structure Change (α β : Type) where
  old : α
  new : α
  note : β
  deriving DecidableEq, Repr

variable {α β : Type}

/-- The value after the last item. -/
def settled (a : α) (items : List (α × β)) : α := items.foldl (fun _ item => item.1) a

theorem settled_concat (a b : α) (items : List (α × β)) (note : β) :
    settled a (items ++ [(b, note)]) = b := by
  rw [settled, List.foldl_append]
  rfl

theorem settled_cons (a b : α) (items : List (α × β)) (note : β) :
    settled a ((b, note) :: items) = settled b items := rfl

section
variable [DecidableEq α]

def changes : α → List (α × β) → List (Change α β)
  | _, [] => []
  | a, (b, note) :: rest => if b = a then changes a rest else ⟨a, b, note⟩ :: changes b rest

theorem changes_concat (a b : α) (items : List (α × β)) (note : β) : changes a (items ++ [(b, note)]) =
    changes a items ++ if b = settled a items then [] else [⟨settled a items, b, note⟩] := by
  induction items generalizing a with
  | nil => rfl
  | cons item items ih =>
    obtain ⟨c, other⟩ := item
    rw [List.cons_append, changes, changes, settled_cons]
    by_cases same : c = a
    · rw [if_pos same, if_pos same, ih, same]
    · rw [if_neg same, if_neg same, ih, List.cons_append]

theorem changes_first (a : α) (items : List (α × β)) : ∀ c ∈ (changes a items).head?, c.old = a := by
  induction items generalizing a with
  | nil => exact nofun
  | cons item items ih =>
    rw [changes]
    split_ifs with same
    · exact ih a
    · rintro c found
      rw [List.head?_cons, Option.mem_some_iff] at found
      exact found ▸ rfl

/-- Every change starts where the one before it ended. -/
theorem changes_chain (a : α) (items : List (α × β)) :
    (changes a items).IsChain fun c d => c.new = d.old := by
  induction items generalizing a with
  | nil => exact .nil
  | cons item items ih =>
    rw [changes]
    split_ifs with same
    · exact ih a
    · exact (ih item.1).cons fun d found => (changes_first item.1 items d found).symm

theorem changes_ne (a : α) (items : List (α × β)) : ∀ c ∈ changes a items, c.old ≠ c.new := by
  induction items generalizing a with
  | nil => exact nofun
  | cons item items ih =>
    rw [changes]
    split_ifs with same
    · exact ih a
    · exact List.forall_mem_cons.mpr ⟨fun equal => same equal.symm, ih item.1⟩

/-- The last change ended at the value of now. -/
theorem changes_last (a : α) (items : List (α × β)) :
    ((changes a items).getLast?.map Change.new).getD a = settled a items := by
  induction items generalizing a with
  | nil => rfl
  | cons item items ih =>
    obtain ⟨b, note⟩ := item
    rw [changes]
    split_ifs with same
    · rw [ih, ← same]
      rfl
    · have later := ih b
      rw [List.getLast?_cons]
      cases ended : (changes b items).getLast? with
      | none =>
        rw [ended] at later
        exact later
      | some c =>
        rw [ended] at later
        exact later

end

end Gotun.Lib
