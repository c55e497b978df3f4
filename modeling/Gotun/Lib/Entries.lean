import Mathlib.Algebra.GroupWithZero.Nat
import Mathlib.Data.List.Basic
import Mathlib.Data.List.Count
import Mathlib.Data.List.Perm.Basic

/-! Lists in which one entry is changed. -/

namespace Gotun.Lib

variable {α : Type} {p : α → Bool} {l : List α} {i : Nat} {a b c : α}

theorem countP_set_add (here : l[i]? = some a) :
    (l.set i b).countP p + (if p a then 1 else 0) = l.countP p + if p b then 1 else 0 := by
  obtain ⟨below, rfl⟩ := List.getElem?_eq_some_iff.mp here
  have counted : (if p l[i] then 1 else 0) ≤ l.countP p := List.boole_getElem_le_countP below
  rw [List.countP_set below]
  omega

/-- A change that a function does not see. -/
theorem map_set_same {β : Type} {f : α → β} (here : l[i]? = some a) (same : f b = f a) :
    (l.set i b).map f = l.map f := by
  obtain ⟨below, rfl⟩ := List.getElem?_eq_some_iff.mp here
  have below' : i < (l.map f).length := by rwa [List.length_map]
  rw [List.map_set, same, ← List.getElem_map f (h := below'), List.set_getElem_self]

/-! What an entry of a changed list was. -/

theorem of_getElem?_set {j : Nat} (there : (l.set i b)[j]? = some c) :
    i ≠ j ∧ l[j]? = some c ∨ i = j ∧ b = c := by
  by_cases here : i = j
  · subst here
    rw [List.getElem?_set_self'] at there
    obtain ⟨_, _, same⟩ := Option.map_eq_some_iff.mp there
    exact Or.inr ⟨rfl, same⟩
  · rw [List.getElem?_set_ne here] at there
    exact Or.inl ⟨here, there⟩

theorem of_getElem?_modify {f : α → α} {j : Nat} (there : (l.modify i f)[j]? = some b) :
    i ≠ j ∧ l[j]? = some b ∨ i = j ∧ ∃ a, l[j]? = some a ∧ f a = b := by
  rw [List.getElem?_modify] at there
  obtain ⟨a, found, same⟩ := Option.map_eq_some_iff.mp there
  by_cases here : i = j
  · exact Or.inr ⟨here, a, found, by rwa [if_pos here] at same⟩
  · rw [if_neg here] at same
    exact Or.inl ⟨here, same ▸ found⟩

theorem of_getElem?_concat {j : Nat} (there : (l ++ [b])[j]? = some c) :
    l[j]? = some c ∨ j = l.length ∧ b = c := by
  rcases Nat.lt_trichotomy j l.length with less | rfl | more
  · rw [List.getElem?_append_left less] at there
    exact Or.inl there
  · rw [List.getElem?_concat_length] at there
    exact Or.inr ⟨rfl, Option.some.inj there⟩
  · have below := (List.getElem?_eq_some_iff.mp there).1
    rw [List.length_append] at below
    exact absurd below (Nat.not_lt_of_le more)

/-- What holds of all entries still does after one of them has become something of which it holds. -/
theorem forall_mem_set {P : α → Prop} (all : ∀ u ∈ l, P u) (new : P b) : ∀ u ∈ l.set i b, P u := by
  intro u member
  rcases List.mem_or_eq_of_mem_set member with before | rfl
  · exact all u before
  · exact new

theorem forall_mem_concat {P : α → Prop} (all : ∀ u ∈ l, P u) (new : P b) : ∀ u ∈ l ++ [b], P u := by
  intro u member
  rcases List.mem_append.mp member with before | here
  · exact all u before
  · exact List.mem_singleton.mp here ▸ new

/-- A sum over a list of which one entry is changed. -/
theorem sum_set_add {g : α → Nat} (here : l[i]? = some a) :
    ((l.set i b).map g).sum + g a = (l.map g).sum + g b := by
  obtain ⟨below, rfl⟩ := List.getElem?_eq_some_iff.mp here
  have before := ((List.getElem_cons_eraseIdx_perm below).map g).sum_nat
  have after := ((List.set_perm_cons_eraseIdx below b).map g).sum_nat
  rw [List.map_cons, List.sum_cons] at before after
  omega

theorem modify_of_some {f : α → α} (here : l[i]? = some a) : l.modify i f = l.set i (f a) := by
  have : Inhabited α := ⟨a⟩
  rw [List.modify_eq_set, here]
  rfl

theorem sum_modify_add {g : α → Nat} {f : α → α} (here : l[i]? = some a) :
    ((l.modify i f).map g).sum + g a = (l.map g).sum + g (f a) := by
  rw [modify_of_some here]
  exact sum_set_add here

/-- A change that adds no more than so much to the entry. -/
theorem sum_modify_le {g : α → Nat} {f : α → α} (k : Nat) (adds : ∀ a, g (f a) ≤ g a + k) :
    ((l.modify i f).map g).sum ≤ (l.map g).sum + k := by
  cases here : l[i]? with
  | none =>
    rw [List.modify_eq_self (List.getElem?_eq_none_iff.mp here)]
    exact Nat.le_add_right ..
  | some a =>
    have moved := sum_modify_add (g := g) (f := f) here
    have added := adds a
    omega

theorem countP_modify_add {f : α → α} (here : l[i]? = some a) :
    (l.modify i f).countP p + (p a).toNat = l.countP p + (p (f a)).toNat := by
  rw [modify_of_some here]
  have moved := countP_set_add (p := p) (b := f a) here
  cases before : p a <;> cases after : p (f a) <;> simp only [before, after] at moved ⊢ <;> exact moved

theorem countP_concat : (l ++ [a]).countP p = l.countP p + (p a).toNat := by
  rw [List.countP_append, List.countP_singleton]
  cases p a <;> rfl

theorem countP_set_same (here : l[i]? = some a) (same : p b = p a) :
    (l.set i b).countP p = l.countP p := by
  have moved := countP_set_add (p := p) (b := b) here
  rw [same] at moved
  exact Nat.add_right_cancel moved

/-- An entry that begins to count for something adds it. -/
theorem filterMap_set_add {β : Type} {f : α → Option β} {x : β} (here : l[i]? = some a)
    (before : f a = none) (after : f b = some x) :
    ((l.set i b).filterMap f).Perm (l.filterMap f ++ [x]) := by
  obtain ⟨below, rfl⟩ := List.getElem?_eq_some_iff.mp here
  have rest : ((l[i] :: l.eraseIdx i).filterMap f).Perm (l.filterMap f) :=
    (List.getElem_cons_eraseIdx_perm below).filterMap f
  rw [List.filterMap_cons_none before] at rest
  have changed := (List.set_perm_cons_eraseIdx below b).filterMap f
  rw [List.filterMap_cons_some after] at changed
  exact (changed.trans (rest.cons x)).trans (List.perm_append_singleton x _).symm

theorem filterMap_set_same {β : Type} {f : α → Option β} (here : l[i]? = some a) (same : f b = f a) :
    (l.set i b).filterMap f = l.filterMap f := by
  obtain ⟨below, rfl⟩ := List.getElem?_eq_some_iff.mp here
  rw [List.set_eq_take_append_cons_drop, if_pos below, List.filterMap_append, List.filterMap_cons,
    same, ← List.filterMap_cons, ← List.filterMap_append, List.getElem_cons_drop,
    List.take_append_drop]

/-- In a list that does not increase, the front is at or above a bound exactly when as many entries
are. -/
theorem prefix_countP_iff {l front : List Int} (sorted : l.Pairwise (· ≥ ·)) (first : front <+: l)
    (bound : Int) :
    (∀ u ∈ front, bound ≤ u) ↔ front.length ≤ l.countP (bound ≤ ·) := by
  obtain ⟨rest, rfl⟩ := first
  obtain ⟨_, _, above⟩ := List.pairwise_append.mp sorted
  have split : (front ++ rest).countP (bound ≤ ·) =
      front.countP (bound ≤ ·) + rest.countP (bound ≤ ·) :=
    List.countP_append
  constructor
  · intro all
    have whole : front.countP (bound ≤ ·) = front.length :=
      List.countP_eq_length.mpr fun u member => decide_eq_true (all u member)
    omega
  · intro enough u member
    by_contra below
    have none_later : rest.countP (bound ≤ ·) = 0 := by
      refine List.countP_eq_zero.mpr fun v later => ?_
      have order := above u member v later
      simp only [decide_eq_true_eq]
      omega
    have missed : front.countP (bound ≤ ·) < front.length := by
      refine Nat.lt_of_le_of_ne List.countP_le_length fun whole => ?_
      exact below (of_decide_eq_true (List.countP_eq_length.mp whole u member))
    omega

theorem mem_set_of_ne (member : a ∈ l) (here : l[i]? = some b) (ne : a ≠ b) : a ∈ l.set i c := by
  obtain ⟨j, there⟩ := List.mem_iff_getElem?.mp member
  refine List.mem_iff_getElem?.mpr ⟨j, ?_⟩
  rw [List.getElem?_set_ne, there]
  rintro rfl
  exact ne (Option.some.inj (there.symm.trans here))

theorem modify_empty {f : α → α} (empty : l = []) : l.modify i f = [] := by
  rw [empty]
  exact List.modify_nil f i

theorem any_modify {f : α → α} (j : Nat) (kept : ∀ a, l[j]? = some a → i = j → p (f a) = p a) :
    (l.modify i f)[j]?.any p = l[j]?.any p := by
  rw [List.getElem?_modify]
  cases entry : l[j]? with
  | none => rfl
  | some a =>
    by_cases here : i = j
    · simp only [here, Option.map_eq_map, Option.map_some, if_true, Option.any_some, kept a entry here]
    · simp only [here, Option.map_eq_map, Option.map_some, if_false]

theorem any_modify_ne {f : α → α} {j : Nat} (ne : i ≠ j) : (l.modify i f)[j]?.any p = l[j]?.any p :=
  any_modify j fun _ _ same => absurd same ne

theorem any_modify_false {f : α → α} (never : ∀ a, p (f a) = false) :
    (l.modify i f)[i]?.any p = false := by
  rw [List.getElem?_modify]
  cases l[i]? with
  | none => rfl
  | some a =>
    simp only [Option.map_eq_map, Option.map_some, if_true, Option.any_some]
    exact never a

end Gotun.Lib
