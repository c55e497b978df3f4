import Mathlib.Logic.Function.Basic
import Mathlib.Data.List.Basic

/-! Maps from keys to values that have a name and an identity of their own, and what is kept when
entries are put, moved and dropped. -/

namespace Gotun.Lib

variable {κ α β : Type}

/-- A map that is undefined at all but a few keys. -/
abbrev Table (κ α : Type) := κ → Option α

namespace Table

variable {table : Table κ α} {key other : κ} {a b : α}

section changes

variable [DecidableEq κ]

def put (table : Table κ α) (key : κ) (a : α) : Table κ α := Function.update table key (some a)

def drop (table : Table κ α) (key : κ) : Table κ α := Function.update table key none

/-- The entry under one key is replaced by one under another. -/
def move (table : Table κ α) (old new : κ) (a : α) : Table κ α := (table.drop old).put new a

theorem put_self (present : table key = some a) : table.put key a = table := by
  rw [put, ← present, Function.update_eq_self]

theorem drop_absent (absent : table key = none) : table.drop key = table := by
  rw [drop, ← absent, Function.update_eq_self]

theorem of_drop (found : table.drop key other = some b) : other ≠ key ∧ table other = some b := by
  unfold drop at found
  by_cases same : other = key
  · rw [same, Function.update_self] at found
    contradiction
  · rw [Function.update_of_ne same] at found
    exact ⟨same, found⟩

theorem drop_none (absent : table other = none) : table.drop key other = none := by
  cases found : table.drop key other with
  | none => rfl
  | some b =>
    rw [(of_drop found).2] at absent
    contradiction

theorem of_put (found : table.put key a other = some b) :
    other = key ∧ b = a ∨ other ≠ key ∧ table other = some b := by
  unfold put at found
  by_cases same : other = key
  · rw [same, Function.update_self] at found
    exact .inl ⟨same, (Option.some.inj found).symm⟩
  · rw [Function.update_of_ne same] at found
    exact .inr ⟨same, found⟩

theorem of_move {old new : κ} (found : table.move old new a other = some b) :
    other = new ∧ b = a ∨ other ≠ new ∧ other ≠ old ∧ table other = some b := by
  rcases of_put found with here | ⟨ne, rest⟩
  · exact .inl here
  · exact .inr ⟨ne, of_drop rest⟩

end changes

/-- Every entry is under its own name. -/
def Named (name : α → κ) (table : Table κ α) : Prop := ∀ key a, table key = some a → name a = key

/-- No two entries have the same identity. -/
def Unique (identity : α → β) (table : Table κ α) : Prop :=
  ∀ key key' a a', table key = some a → table key' = some a' → identity a = identity a' → key = key'

section kept

variable [DecidableEq κ] {name : α → κ} {identity : α → β}

theorem Named.drop (named : table.Named name) (key : κ) : (table.drop key).Named name :=
  fun other b found => named other b (of_drop found).2

theorem Named.put (named : table.Named name) (own : name a = key) : (table.put key a).Named name := by
  intro other b found
  rcases of_put found with ⟨rfl, rfl⟩ | ⟨_, old⟩
  · exact own
  · exact named other b old

theorem Named.move (named : table.Named name) (old : κ) (own : name a = key) :
    (table.move old key a).Named name :=
  (named.drop old).put own

theorem Unique.drop (unique : table.Unique identity) (key : κ) : (table.drop key).Unique identity :=
  fun _ _ _ _ found found' => unique _ _ _ _ (of_drop found).2 (of_drop found').2

theorem Unique.put (unique : table.Unique identity)
    (new : ∀ other b, table other = some b → other ≠ key → identity b ≠ identity a) :
    (table.put key a).Unique identity := by
  intro other other' b b' found found' same
  rcases of_put found with ⟨rfl, rfl⟩ | ⟨ne, old⟩
  · rcases of_put found' with ⟨rfl, _⟩ | ⟨ne', old'⟩
    · rfl
    · exact absurd same.symm (new _ _ old' ne')
  · rcases of_put found' with ⟨rfl, rfl⟩ | ⟨_, old'⟩
    · exact absurd same (new _ _ old ne)
    · exact unique _ _ _ _ old old' same

/-- An entry can be moved if it keeps its identity. -/
theorem Unique.move (unique : table.Unique identity) {old new : κ} (present : table old = some b)
    (kept : identity a = identity b) : (table.move old new a).Unique identity := by
  refine (unique.drop old).put ?_
  intro other c found _ same
  obtain ⟨ne, found⟩ := of_drop found
  exact ne (unique _ _ _ _ found present (same.trans kept))

/-- No key has an entry in both tables. -/
def Apart (table : Table κ α) (table' : Table κ β) : Prop := ∀ key, table key = none ∨ table' key = none

omit [DecidableEq κ] in
theorem Apart.symm {table' : Table κ β} (apart : table.Apart table') : table'.Apart table :=
  fun key => (apart key).symm

theorem Apart.drop {table' : Table κ β} (apart : table.Apart table') (key : κ) :
    (table.drop key).Apart table' := by
  intro other
  by_cases here : other = key
  · exact .inl (by rw [here, Table.drop, Function.update_self])
  · rw [Table.drop, Function.update_of_ne here]
    exact apart other

theorem Apart.put {table' : Table κ β} (apart : table.Apart table') (free : table' key = none) :
    (table.put key a).Apart table' := by
  intro other
  by_cases here : other = key
  · exact .inr (here ▸ free)
  · rw [Table.put, Function.update_of_ne here]
    exact apart other

theorem Apart.move {table' : Table κ β} (apart : table.Apart table') (old : κ)
    (free : table' key = none) :
    (table.move old key a).Apart table' := (apart.drop old).put free

end kept

/-! Entries that are hidden. -/

section hidden

variable [DecidableEq κ] {hidden : List κ}

def without (table : Table κ α) (hidden : List κ) : Table κ α :=
  fun key => if key ∈ hidden then none else table key

theorem without_cons (table : Table κ α) (key : κ) (hidden : List κ) :
    table.without (key :: hidden) = (table.without hidden).drop key := by
  funext other
  by_cases here : other = key
  · rw [here, drop, Function.update_self, without, if_pos List.mem_cons_self]
  · rw [drop, Function.update_of_ne here, without, without]
    simp only [List.mem_cons, here, false_or]

theorem drop_without (table : Table κ α) (key : κ) (hidden : List κ) :
    (table.drop key).without hidden = (table.without hidden).drop key := by
  funext other
  by_cases here : other = key
  · rw [here, drop, drop, Function.update_self, without, Function.update_self, ite_self]
  · rw [drop, drop, Function.update_of_ne here, without, without, Function.update_of_ne here]

theorem put_without (table : Table κ α) (a : α) (free : key ∉ hidden) :
    (table.put key a).without hidden = (table.without hidden).put key a := by
  funext other
  by_cases here : other = key
  · rw [here, put, put, Function.update_self, without, Function.update_self, if_neg free]
  · rw [put, put, Function.update_of_ne here, without, without, Function.update_of_ne here]

/-- An entry that is dropped need not be hidden any more. -/
theorem drop_without_erase (table : Table κ α) (member : key ∈ hidden) :
    (table.drop key).without (hidden.erase key) = table.without hidden := by
  funext other
  by_cases here : other = key
  · rw [here, drop, without, without, Function.update_self, ite_self, if_pos member]
  · rw [drop, without, without, Function.update_of_ne here]
    simp only [List.mem_erase_of_ne here]

end hidden

/-! Looking for an entry in some order of the keys. -/

def find (table : Table κ α) (wanted : α → Bool) (order : List κ) : Option (κ × α) :=
  order.findSome? fun key => ((table key).filter wanted).map (key, ·)

/-- All the keys that have entries come up. -/
def Covers (table : Table κ α) (order : List κ) : Prop := ∀ key a, table key = some a → key ∈ order

theorem of_find {wanted : α → Bool} {order : List κ} (found : table.find wanted order = some (key, a)) :
    table key = some a ∧ wanted a = true := by
  obtain ⟨key', _, found⟩ := List.exists_of_findSome?_eq_some found
  obtain ⟨b, filtered, same⟩ := Option.map_eq_some_iff.mp found
  obtain ⟨rfl, rfl⟩ := Prod.mk.inj same
  exact Option.filter_eq_some_iff.mp filtered

theorem find_isSome {wanted : α → Bool} {order : List κ} (covers : table.Covers order)
    (present : table key = some a) (fits : wanted a = true) : (table.find wanted order).isSome := by
  rw [find, List.findSome?_isSome_iff]
  refine ⟨key, covers _ _ present, ?_⟩
  rw [present, Option.filter_some_pos fits]
  rfl

/-- Where at most one entry is looked for, the order does not matter. -/
theorem find_eq {wanted : α → Bool} {order order' : List κ} (covers : table.Covers order)
    (covers' : table.Covers order')
    (single : ∀ {key key' a a'}, table key = some a → table key' = some a' → wanted a = true →
      wanted a' = true → key = key') :
    table.find wanted order = table.find wanted order' := by
  cases found : table.find wanted order with
  | none =>
    cases found' : table.find wanted order' with
    | none => rfl
    | some entry =>
      obtain ⟨present, fits⟩ := of_find found'
      have some_ := find_isSome covers present fits
      rw [found] at some_
      contradiction
  | some entry =>
    obtain ⟨present, fits⟩ := of_find found
    obtain ⟨⟨key', a'⟩, found'⟩ := Option.isSome_iff_exists.mp (find_isSome covers' present fits)
    obtain ⟨present', fits'⟩ := of_find found'
    rw [found']
    obtain ⟨key, a⟩ := entry
    obtain rfl := single present present' fits fits'
    cases Option.some.inj (present.symm.trans present')
    rfl

end Table

end Gotun.Lib
