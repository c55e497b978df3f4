import Mathlib.Data.List.DropRight

/-! Rolling windows: a list that keeps the last `n` of the items appended to it. -/

namespace Gotun.Lib

variable {α : Type}

def push (n : Nat) (kept : List α) (a : α) : List α := (kept ++ [a]).rtake n

theorem push_of_le {n : Nat} {kept : List α} {a : α} (room : (kept ++ [a]).length ≤ n) :
    push n kept a = kept ++ [a] := by
  rw [push, List.rtake, Nat.sub_eq_zero_of_le room, List.drop_zero]

/-- The items already dropped do not come back. -/
theorem push_rtake (n : Nat) (items : List α) (a : α) :
    push n (items.rtake n) a = (items ++ [a]).rtake n := by
  cases n with
  | zero => rw [push, List.rtake_zero, List.rtake_zero]
  | succ n =>
    rw [push, List.rtake_concat_succ, List.rtake_concat_succ]
    congr 1
    rw [List.rtake, List.rtake, List.rtake, List.drop_drop, List.length_drop]
    congr 1
    omega

theorem length_rtake (n : Nat) (items : List α) : (items.rtake n).length = min n items.length := by
  rw [List.rtake, List.length_drop]
  omega

theorem rtake_ne_nil {n : Nat} {items : List α} (room : 0 < n)
    (some_item : items ≠ []) : items.rtake n ≠ [] := by
  have long := List.length_pos_iff.mpr some_item
  refine List.length_pos_iff.mp ?_
  rw [length_rtake]
  omega

/-- The latest item is in the window. -/
theorem mem_rtake_concat {n : Nat} (room : 0 < n) (items : List α)
    (a : α) : a ∈ (items ++ [a]).rtake n := by
  obtain ⟨n, rfl⟩ := Nat.exists_eq_succ_of_ne_zero (Nat.pos_iff_ne_zero.mp room)
  rw [List.rtake_concat_succ]
  exact List.mem_append_right _ (List.mem_singleton_self a)

theorem map_rtake {β : Type} (f : α → β) (n : Nat) (items : List α) :
    (items.rtake n).map f = (items.map f).rtake n := by
  rw [List.rtake, List.rtake, List.map_drop, List.length_map]

end Gotun.Lib
