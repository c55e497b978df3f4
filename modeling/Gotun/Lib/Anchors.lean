import Mathlib.Data.List.Basic

/-! Documents whose nodes are named by anchors: an alias stands for the last node before it that has
its name. -/

namespace Gotun.Lib.Anchors

inductive Kind where
  | sequence
  | mapping
  deriving DecidableEq, Repr

/-- The content of a mapping has its keys and what they map to by turns. -/
inductive Node where
  | scalar (anchor : Option String) (tag text : String)
  | collection (kind : Kind) (anchor : Option String) (tag : String) (content : List Node)
  | reference (name : String)
  deriving Repr

/-- A node in which each alias is what it stands for: a node, the node that the alias is in, or none. -/
inductive Value where
  | scalar (tag text : String)
  | collection (kind : Kind) (tag : String) (content : List Value)
  | itself (name : String)
  | unknown (name : String)
  deriving Repr

mutual

def Node.decEq : (a b : Node) → Decidable (a = b)
  | .scalar anchor tag text, .scalar anchor' tag' text' =>
    decidable_of_iff (anchor = anchor' ∧ tag = tag' ∧ text = text') (by rw [Node.scalar.injEq])
  | .collection kind anchor tag content, .collection kind' anchor' tag' content' =>
    match Node.decEqAll content content' with
    | .isTrue same =>
      decidable_of_iff (kind = kind' ∧ anchor = anchor' ∧ tag = tag')
        (by simp only [Node.collection.injEq, same, and_true])
    | .isFalse differ => .isFalse fun same => differ (Node.collection.inj same).2.2.2
  | .reference name, .reference name' => decidable_of_iff (name = name') (by rw [Node.reference.injEq])
  | .scalar .., .collection .. | .scalar .., .reference _ | .collection .., .scalar ..
  | .collection .., .reference _
  | .reference _, .scalar .. | .reference _, .collection .. => .isFalse fun same => Node.noConfusion same

def Node.decEqAll : (a b : List Node) → Decidable (a = b)
  | [], [] => .isTrue rfl
  | [], _ :: _ => .isFalse (List.cons_ne_nil _ _).symm
  | _ :: _, [] => .isFalse (List.cons_ne_nil _ _)
  | a :: as, b :: bs =>
    match Node.decEq a b, Node.decEqAll as bs with
    | .isTrue same, .isTrue same' => .isTrue (congrArg₂ List.cons same same')
    | .isFalse differ, _ => .isFalse fun same => differ (List.cons.inj same).1
    | _, .isFalse differ => .isFalse fun same => differ (List.cons.inj same).2

end

instance : DecidableEq Node := Node.decEq

/-- The names that are given, the last one first. -/
abbrev Scope := List (String × Value)

def Scope.find : Scope → String → Value
  | [], name => .unknown name
  | (given, value) :: rest, name => if given = name then value else Scope.find rest name

def given (anchor : Option String) (value : Value) : Scope :=
  (anchor.map fun name => (name, value)).toList

/-- Inside a node its name stands for no other value. -/
def opened (anchor : Option String) : Scope := (anchor.map fun name => (name, Value.itself name)).toList

mutual

/-- The value of a node, and the names that are given in it. -/
def Node.resolve (scope : Scope) : Node → Value × Scope
  | .scalar anchor tag text => (.scalar tag text, given anchor (.scalar tag text))
  | .collection kind anchor tag content =>
    let inner := resolveAll (opened anchor ++ scope) content
    (.collection kind tag inner.1, inner.2 ++ given anchor (.collection kind tag inner.1))
  | .reference name => (scope.find name, [])

def resolveAll (scope : Scope) : List Node → List Value × Scope
  | [] => ([], [])
  | node :: rest =>
    let first := node.resolve scope
    let later := resolveAll (first.2 ++ scope) rest
    (first.1 :: later.1, later.2 ++ first.2)

end

mutual

/-- Every alias stands for a node. -/
def Value.known : Value → Bool
  | .scalar _ _ | .itself _ => true
  | .collection _ _ content => allKnown content
  | .unknown _ => false

def allKnown : List Value → Bool
  | [] => true
  | value :: rest => value.known && allKnown rest

end

mutual

def Node.anchors : Node → List String
  | .scalar anchor _ _ => anchor.toList
  | .collection _ anchor _ content => anchor.toList ++ allAnchors content
  | .reference _ => []

def allAnchors : List Node → List String
  | [] => []
  | node :: rest => node.anchors ++ allAnchors rest

end

mutual

def Node.aliases : Node → List String
  | .scalar _ _ _ => []
  | .collection _ _ _ content => allAliases content
  | .reference name => [name]

def allAliases : List Node → List String
  | [] => []
  | node :: rest => node.aliases ++ allAliases rest

end

/-- The text of a scalar, and the name of an alias. -/
def Node.text : Node → String
  | .scalar _ _ text => text
  | .collection _ _ _ _ => ""
  | .reference name => name

/-- The entries of a mapping: the text of each key, its value, and that of what it maps to. -/
def entries (scope : Scope) : List (Node × Node) → List (String × Value × Value)
  | [] => []
  | (key, node) :: rest =>
    let named := key.resolve scope
    let mapped := node.resolve (named.2 ++ scope)
    (key.text, named.1, mapped.1) :: entries (mapped.2 ++ (named.2 ++ scope)) rest

/-- A document by its root: there is none, it is no mapping, or it is a mapping with these keys in
their order. -/
inductive Document where
  | empty
  | other (root : Node)
  | mapping (anchor : Option String) (tag : String) (pairs : List (Node × Node))
  deriving DecidableEq, Repr

def Document.entries : Document → List (String × Value × Value)
  | .empty | .other _ => []
  | .mapping anchor _ pairs => Anchors.entries (opened anchor) pairs

def Document.Resolved (doc : Document) : Prop := ∀ entry ∈ doc.entries, entry.2.1.known ∧ entry.2.2.known

instance (doc : Document) : Decidable doc.Resolved :=
  inferInstanceAs (Decidable (∀ entry ∈ doc.entries, entry.2.1.known ∧ entry.2.2.known))

/-! What a name stands for. -/

section scopes

variable {scope scope' : Scope} {name : String}

theorem Scope.find_append_congr (inner : Scope) (same : scope.find name = scope'.find name) :
    Scope.find (inner ++ scope) name = Scope.find (inner ++ scope') name := by
  induction inner with
  | nil => exact same
  | cons bound rest ih =>
    rw [List.cons_append, List.cons_append, Scope.find, Scope.find, ih]

theorem Scope.find_append_of_not_mem {inner : Scope} (absent : ∀ bound ∈ inner, bound.1 ≠ name) :
    Scope.find (inner ++ scope) name = scope.find name := by
  induction inner with
  | nil => rfl
  | cons bound rest ih =>
    obtain ⟨differ, absent⟩ := List.forall_mem_cons.mp absent
    rw [List.cons_append, Scope.find, if_neg differ]
    exact ih absent

end scopes

mutual

/-- A node has the same value in two scopes in which its aliases stand for the same. -/
theorem Node.resolve_congr {scope scope' : Scope} (node : Node)
    (same : ∀ name ∈ node.aliases, scope.find name = scope'.find name) :
    node.resolve scope = node.resolve scope' := by
  cases node with
  | scalar anchor tag text => rfl
  | collection kind anchor tag content =>
    rw [Node.aliases] at same
    rw [Node.resolve, Node.resolve,
      resolveAll_congr content fun name member => Scope.find_append_congr (opened anchor)
        (same name member)]
  | reference name =>
    rw [Node.resolve, Node.resolve, same name List.mem_cons_self]

theorem resolveAll_congr {scope scope' : Scope} (nodes : List Node)
    (same : ∀ name ∈ allAliases nodes, scope.find name = scope'.find name) :
    resolveAll scope nodes = resolveAll scope' nodes := by
  cases nodes with
  | nil => rfl
  | cons node rest =>
    rw [allAliases] at same
    have first := node.resolve_congr fun name member => same name (List.mem_append_left _ member)
    have later : resolveAll ((node.resolve scope').2 ++ scope) rest =
        resolveAll ((node.resolve scope').2 ++ scope') rest :=
      resolveAll_congr rest fun name member => Scope.find_append_congr _
        (same name (List.mem_append_right _ member))
    rw [resolveAll, resolveAll, first, later]

end

theorem given_names {anchor : Option String} {value : Value} :
    (given anchor value).map Prod.fst = anchor.toList := by
  cases anchor <;> rfl

mutual

/-- The names that are given in a node are those of its anchors. -/
theorem Node.resolve_names (scope : Scope) (node : Node) :
    (node.resolve scope).2.map Prod.fst ⊆ node.anchors := by
  cases node with
  | scalar anchor tag text => exact given_names ▸ List.Subset.refl _
  | collection kind anchor tag content =>
    rw [Node.resolve, Node.anchors, List.map_append, given_names]
    intro name member
    rcases List.mem_append.mp member with inner | own
    · exact List.mem_append_right _ (resolveAll_names _ content inner)
    · exact List.mem_append_left _ own
  | reference name => exact List.nil_subset _

theorem resolveAll_names (scope : Scope) (nodes : List Node) :
    (resolveAll scope nodes).2.map Prod.fst ⊆ allAnchors nodes := by
  cases nodes with
  | nil => exact List.nil_subset _
  | cons node rest =>
    rw [resolveAll, allAnchors, List.map_append]
    intro name member
    rcases List.mem_append.mp member with later | first
    · exact List.mem_append_right _ (resolveAll_names _ rest later)
    · exact List.mem_append_left _ (node.resolve_names scope first)

end

theorem entries_keys (scope : Scope) (pairs : List (Node × Node)) :
    (entries scope pairs).map Prod.fst = pairs.map fun pair => pair.1.text := by
  induction pairs generalizing scope with
  | nil => rfl
  | cons pair rest ih =>
    rw [entries, List.map_cons, List.map_cons, ih]

/-- Keys that name nothing that the other keys refer to can be left out. -/
theorem entries_filter (keep : String → Bool) {scope scope' : Scope} {pairs : List (Node × Node)}
    (unused : ∀ pair ∈ pairs, keep pair.1.text = false → ∀ other ∈ pairs, keep other.1.text = true →
      ∀ name ∈ pair.1.anchors ++ pair.2.anchors, name ∉ other.1.aliases ++ other.2.aliases)
    (same : ∀ pair ∈ pairs, keep pair.1.text = true → ∀ name ∈ pair.1.aliases ++ pair.2.aliases,
      scope.find name = scope'.find name) :
    entries scope (pairs.filter fun pair => keep pair.1.text) =
      (entries scope' pairs).filter fun entry => keep entry.1 := by
  induction pairs generalizing scope scope' with
  | nil => rfl
  | cons pair rest ih =>
    obtain ⟨key, node⟩ := pair
    obtain ⟨here, later⟩ := List.forall_mem_cons.mp same
    have rest_unused := fun pair member dropped other member' =>
      unused pair (List.mem_cons_of_mem _ member) dropped other (List.mem_cons_of_mem _ member')
    cases kept : keep key.text with
    | true =>
      have named := key.resolve_congr fun name member => here kept name (List.mem_append_left _ member)
      have mapped : node.resolve ((key.resolve scope').2 ++ scope) =
          node.resolve ((key.resolve scope').2 ++ scope') :=
        node.resolve_congr fun name member => Scope.find_append_congr _
          (here kept name (List.mem_append_right _ member))
      rw [List.filter_cons, if_pos kept, entries, entries, List.filter_cons, if_pos kept, named, mapped,
        ih rest_unused fun pair member kept' name used => Scope.find_append_congr _
          (Scope.find_append_congr _ (later pair member kept' name used))]
    | false =>
      have dropped : ¬ keep key.text = true := by rw [kept]; exact Bool.false_ne_true
      rw [List.filter_cons, if_neg dropped, entries, List.filter_cons, if_neg dropped]
      refine ih rest_unused fun pair member kept' name used => ?_
      -- what the key names is not what is looked up
      have absent : ∀ name' ∈ key.anchors ++ node.anchors, name' ≠ name := fun name' named same =>
        unused (key, node) List.mem_cons_self kept pair
          (List.mem_cons_of_mem _ member) kept' name' named (same ▸ used)
      rw [later pair member kept' name used, Scope.find_append_of_not_mem, Scope.find_append_of_not_mem]
      · intro bound given
        exact absent _ (List.mem_append_left _ (key.resolve_names _ (List.mem_map_of_mem given)))
      · intro bound given
        exact absent _ (List.mem_append_right _ (node.resolve_names _ (List.mem_map_of_mem given)))

end Gotun.Lib.Anchors
