import Gotun.Lib.Table

/-! Maps to numbered owners, each with the resources that it needs. No two owners need what cannot be
had together. -/

namespace Gotun.Lib

namespace Table

variable {κ ρ : Type} {conflicts : ρ → ρ → Bool} {table : Table κ (Nat × List ρ)} {next : Nat}
  {key : κ} {needs : List ρ}

/-- Nothing of the one is in the way of the other. -/
def Clear (conflicts : ρ → ρ → Bool) (needs needs' : List ρ) : Prop :=
  ∀ a ∈ needs, ∀ b ∈ needs', conflicts a b = false

/-- The numbers are given out in turn. -/
structure Spread (conflicts : ρ → ρ → Bool) (table : Table κ (Nat × List ρ)) (next : Nat) : Prop where
  known : ∀ key owner, table key = some owner → owner.1 < next
  distinct : table.Unique Prod.fst
  own : ∀ key owner, table key = some owner → owner.2.Pairwise fun a b => conflicts a b = false
  clear : ∀ key key' owner owner', table key = some owner → table key' = some owner' → key ≠ key' →
    Clear conflicts owner.2 owner'.2

theorem Clear.symm (symmetric : ∀ a b, conflicts a b = conflicts b a) {needs' : List ρ}
    (clear : Clear conflicts needs needs') :
    Clear conflicts needs' needs := by
  intro a here b there
  rw [symmetric]
  exact clear b there a here

theorem Spread.empty : Spread conflicts (fun _ : κ => none) next where
  known _ _ found := nomatch found
  distinct _ _ _ _ found := nomatch found
  own _ _ found := nomatch found
  clear _ _ _ _ found := nomatch found

variable [DecidableEq κ]

theorem Spread.drop (spread : Spread conflicts table next) (key : κ) :
    Spread conflicts (table.drop key) next where
  known other owner found := spread.known other owner (of_drop found).2
  distinct := spread.distinct.drop key
  own other owner found := spread.own other owner (of_drop found).2
  clear other other' owner owner' found found' :=
    spread.clear other other' owner owner' (of_drop found).2 (of_drop found').2

/-- A new owner, whose number is the next one. -/
theorem Spread.put (spread : Spread conflicts table next)
    (symmetric : ∀ a b, conflicts a b = conflicts b a)
    (own : needs.Pairwise fun a b => conflicts a b = false)
    (clear : ∀ other owner, table other = some owner → other ≠ key → Clear conflicts needs owner.2) :
    Spread conflicts (table.put key (next, needs)) (next + 1) where
  known other owner found := by
    rcases of_put found with ⟨_, rfl⟩ | ⟨_, old⟩
    · exact Nat.lt_succ_self next
    · exact Nat.lt_succ_of_lt (spread.known other owner old)
  distinct :=
    spread.distinct.put fun other owner found _ => Nat.ne_of_lt (spread.known other owner found)
  own other owner found := by
    rcases of_put found with ⟨_, rfl⟩ | ⟨_, old⟩
    · exact own
    · exact spread.own other owner old
  clear other other' owner owner' found found' ne := by
    rcases of_put found with ⟨rfl, rfl⟩ | ⟨here, old⟩
    · rcases of_put found' with ⟨rfl, _⟩ | ⟨here', old'⟩
      · exact absurd rfl ne
      · exact clear other' owner' old' here'
    · rcases of_put found' with ⟨rfl, rfl⟩ | ⟨_, old'⟩
      · exact (clear other owner old here).symm symmetric
      · exact spread.clear other other' owner owner' old old' ne

/-! Two maps in one. -/

section join

variable {α : Type} {table table' : Table κ α} {a : α}

def join (table table' : Table κ α) : Table (Bool × κ) α :=
  fun key => if key.1 then table key.2 else table' key.2

theorem join_update_left (key : κ) (entry : Option α) :
    join (Function.update table key entry) table' =
      Function.update (join table table') (true, key) entry := by
  funext ⟨side, other⟩
  cases side with
  | false => rw [Function.update_of_ne fun same => Bool.false_ne_true (Prod.mk.inj same).1]; rfl
  | true =>
    by_cases here : other = key
    · rw [here, Function.update_self]
      exact Function.update_self ..
    · rw [Function.update_of_ne fun same => here (Prod.mk.inj same).2]
      exact Function.update_of_ne here ..

theorem join_update_right (key : κ) (entry : Option α) :
    join table (Function.update table' key entry) =
      Function.update (join table table') (false, key) entry := by
  funext ⟨side, other⟩
  cases side with
  | true => rw [Function.update_of_ne fun same => Bool.false_ne_true (Prod.mk.inj same).1.symm]; rfl
  | false =>
    by_cases here : other = key
    · rw [here, Function.update_self]
      exact Function.update_self ..
    · rw [Function.update_of_ne fun same => here (Prod.mk.inj same).2]
      exact Function.update_of_ne here ..

end join

end Table

end Gotun.Lib
