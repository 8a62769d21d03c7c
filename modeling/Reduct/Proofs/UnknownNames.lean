import Reduct.Proofs.Preflight
/-! This file says which names a search for unknown names reports. The search carries its scope and
the names that it has found from list to list; the answer is stated from the places of the lists in
the program alone. -/

namespace Reduct

/-- A place of a program holds a list inside of other lists, the outermost first. -/
structure Place where
  enclosing : List (List Node)
  items : List Node

mutual

/-- The places of a node inside of some lists, from left to right and outer lists first. Quotes are
looked into, and maps are not. -/
def Node.places (enclosing : List (List Node)) : Node → List Place
  | .list items => ⟨enclosing, items⟩ :: placesOfItems (enclosing ++ [items]) items
  | .quote inner => places enclosing inner
  | _ => []

def Node.placesOfItems (enclosing : List (List Node)) : List Node → List Place
  | [] => []
  | item :: rest => places enclosing item ++ placesOfItems enclosing rest

end

namespace Table

/-- The scope inside of some lists: one after another, the head of each is pushed when it names a
scope in the scope so far. -/
def scopeInside (table : Table) (enclosing : List (List Node)) : Scope :=
  enclosing.foldl table.toLibrary.innerScope .global

/-- A name that stands for no function, preprocessor, caster or constant in a scope. -/
def isUnknown (table : Table) (scope : Scope) (name : String) : Bool :=
  (table.toLibrary.function? name scope).isNone &&
    (table.toLibrary.preprocessor? name scope).isNone &&
    (table.toLibrary.caster? name scope).isNone && (table.toLibrary.constant? name scope).isNone

/-- The head of the list at a place, when it is unknown there and is no name of a quote. -/
def unknownHead? (table : Table) (place : Place) : Option String :=
  (Node.headName? place.items).filter fun name =>
    !Node.isQuoteName name && table.isUnknown (table.scopeInside place.enclosing) name

theorem isUnknown_eq (table : Table) (scope : Scope) (name : String) :
    table.isUnknown scope name = !table.toLibrary.resolves name scope := by
  simp only [isUnknown, Library.resolves, Bool.not_or, Option.not_isSome]

theorem scopeInside_concat (table : Table) (enclosing : List (List Node)) (items : List Node) :
    table.scopeInside (enclosing ++ [items]) =
      table.toLibrary.innerScope (table.scopeInside enclosing) items :=
  List.foldl_concat ..

/-- The heads that are not cleared, by their names. -/
def uncleared (table : Table) (heads : List (Scope × String)) : List String :=
  (heads.filter (!table.toLibrary.isCleared ·)).map Prod.snd

theorem uncleared_append (table : Table) (first second : List (Scope × String)) :
    table.uncleared (first ++ second) = table.uncleared first ++ table.uncleared second := by
  rw [uncleared, List.filter_append, List.map_append]
  rfl

/-- The head of a list is left uncleared where it is unknown. -/
theorem uncleared_head (table : Table) (place : Place) :
    table.uncleared ((Node.headName? place.items).toList.map
        (Prod.mk (table.scopeInside place.enclosing))) =
      (table.unknownHead? place).toList := by
  rw [unknownHead?, uncleared]
  cases Node.headName? place.items with
  | none => rfl
  | some name =>
      simp only [Option.toList_some, List.map_cons, List.map_nil, List.filter_cons,
        List.filter_nil, Option.filter_some, isUnknown_eq, Library.isCleared, Bool.not_or]
      split_ifs <;> rfl

mutual

/-- The scope that the search carries to a list is the scope of its place. -/
theorem uncleared_heads (table : Table) (enclosing : List (List Node)) :
    ∀ node : Node, table.uncleared (table.toLibrary.heads (table.scopeInside enclosing) node) =
      (node.places enclosing).filterMap table.unknownHead?
  | .list items => by
    rw [Library.heads, Node.places, uncleared_append, ← scopeInside_concat,
      uncleared_itemHeads table (enclosing ++ [items]) items, List.filterMap_cons]
    rw [table.uncleared_head ⟨enclosing, items⟩]
    cases table.unknownHead? ⟨enclosing, items⟩ <;> rfl
  | .quote inner => by
    rw [Library.heads, Node.places, uncleared_heads table enclosing inner]
  | .null | .bool _ | .number _ | .string _ | .map _ => by
    simp [Library.heads, Node.places, uncleared]

theorem uncleared_itemHeads (table : Table) (enclosing : List (List Node)) :
    ∀ items : List Node,
      table.uncleared (table.toLibrary.itemHeads (table.scopeInside enclosing) items) =
        (Node.placesOfItems enclosing items).filterMap table.unknownHead?
  | [] => by simp [Library.itemHeads, Node.placesOfItems, uncleared]
  | item :: rest => by
    rw [Library.itemHeads, Node.placesOfItems, uncleared_append, List.filterMap_append,
      uncleared_heads table enclosing item, uncleared_itemHeads table enclosing rest]

end

/-- The unknown name `greet` is known inside of `french`, and is reported for the list after it. -/
example : bilingual.toLibrary.preflight (.list [
    .list [.string "french", .list [.string "greet"], .quotedList [.string "greet"]],
    .list [.string "greet", .list [.string "hello"], .list [.string "greet"]]]) =
      ["greet", "hello"] := by
  decide +kernel

end Table

end Reduct
