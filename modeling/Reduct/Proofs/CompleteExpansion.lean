import Mathlib.Tactic
import Reduct.Proofs.Expansion
/-! This file shows that the expansion of one definition is complete. A call of its name is left only
when the body or the parameters of the definition bring it in, and without such calls an expansion
changes nothing. -/

namespace Reduct.Definition

open Node

variable {definition : Definition}

mutual

/-- Nodes without a call of the definition stay as they are. -/
theorem apply_of_not_calls :
    ∀ node : Node, node.calls definition.name = false → definition.apply node = node
  | .list items, uncalled => by
    rw [calls, Bool.or_eq_false_iff, beq_eq_false_iff_ne] at uncalled
    rw [apply, applyItems_of_not_itemsCall items uncalled.2, expandCall, if_neg uncalled.1]
  | .quote inner, uncalled => by
    rw [calls] at uncalled
    rw [apply, apply_of_not_calls inner uncalled]
  | .null, _ | .bool _, _ | .number _, _ | .string _, _ | .map _, _ => by
    simp only [apply]

theorem applyItems_of_not_itemsCall :
    ∀ items : List Node, Node.itemsCall items definition.name = false →
      definition.applyItems items = items
  | [], _ => by rw [applyItems]
  | item :: rest, uncalled => by
    rw [Node.itemsCall, Bool.or_eq_false_iff] at uncalled
    rw [applyItems, apply_of_not_calls item uncalled.1, applyItems_of_not_itemsCall rest uncalled.2]

end

mutual

/-- A node that stays as it is has no call of the definition, for the head of a call is replaced. -/
theorem not_calls_of_apply_eq (unreserved : definition.name ≠ Standard.lambdaName) :
    ∀ node : Node, definition.apply node = node → node.calls definition.name = false
  | .list items, same => by
    rw [apply, Node.list.injEq] at same
    have head := definition.headName?_expandCall (definition.applyItems items)
    rw [same, headName?_applyItems] at head
    have other : headName? items ≠ some definition.name := by
      intro own
      rw [if_pos own, own] at head
      exact unreserved (Option.some.inj head)
    rw [expandCall, headName?_applyItems, if_neg other] at same
    rw [calls, not_itemsCall_of_applyItems_eq unreserved items same, Bool.or_false,
      beq_eq_false_iff_ne]
    exact other
  | .quote inner, same => by
    rw [apply, Node.quote.injEq] at same
    rw [calls, not_calls_of_apply_eq unreserved inner same]
  | .null, _ | .bool _, _ | .number _, _ | .string _, _ | .map _, _ => by
    simp only [calls]

theorem not_itemsCall_of_applyItems_eq (unreserved : definition.name ≠ Standard.lambdaName) :
    ∀ items : List Node, definition.applyItems items = items →
      Node.itemsCall items definition.name = false
  | [], _ => by rw [Node.itemsCall]
  | item :: rest, same => by
    rw [applyItems, List.cons.injEq] at same
    rw [Node.itemsCall, not_calls_of_apply_eq unreserved item same.1,
      not_itemsCall_of_applyItems_eq unreserved rest same.2, Bool.or_false]

end

section

variable (unreserved : definition.name ≠ Standard.lambdaName)

include unreserved

/-- An expansion changes exactly the nodes with a call of the definition. -/
theorem apply_eq_self_iff (node : Node) :
    definition.apply node = node ↔ node.calls definition.name = false :=
  ⟨not_calls_of_apply_eq unreserved node, apply_of_not_calls node⟩

variable (silent : definition.body.calls definition.name = false)

include silent

/-- When neither the body nor a parameter calls the definition, its expansion leaves no call of it
and changes nothing more. -/
theorem apply_complete
    (quiet : Node.itemsCall definition.parameters definition.name = false) (node : Node) :
    (definition.apply node).calls definition.name = false ∧
      definition.apply (definition.apply node) = definition.apply node := by
  have complete : (definition.apply node).calls definition.name = false := by
    rw [← Bool.not_eq_true, calls_apply_iff quiet unreserved]
    rintro (⟨-, other⟩ | ⟨-, brought⟩)
    · exact other rfl
    · rw [silent] at brought
      exact Bool.false_ne_true brought
  exact ⟨complete, apply_of_not_calls _ complete⟩

/-- The parameters of a form are names, which call nothing. -/
theorem apply_complete_of_ofForm {form : List Node} (made : ofForm form = .ok definition)
    (node : Node) :
    (definition.apply node).calls definition.name = false ∧
      definition.apply (definition.apply node) = definition.apply node :=
  apply_complete unreserved silent ((namesParameters_of_ofForm made).itemsCall _) node

/-- The expansion of a call without arguments brings in the parameters. -/
theorem calls_apply_call :
    (definition.apply (.list [.string definition.name])).calls definition.name =
      Node.itemsCall definition.parameters definition.name := by
  have expanded : definition.apply (.list [.string definition.name]) =
      .list (.string Standard.lambdaName :: definition.parameters ++ [definition.body]) := by
    simp [apply, applyItems, expandCall, headName?, string?]
  have other : headName? (.string Standard.lambdaName :: definition.parameters ++
      [definition.body]) ≠ some definition.name := fun same =>
    unreserved (Option.some.inj same).symm
  rw [expanded, calls, beq_eq_false_iff_ne.mpr other, List.cons_append, Node.itemsCall,
    itemsCall_append]
  simp [calls, Node.itemsCall, silent]

/-- Where neither the name is reserved nor the body calls it, an expansion changes exactly the nodes
with a call of the definition. It is complete and idempotent on all nodes exactly when the
parameters do not call the name either, as names never do. -/
theorem apply_complete_idempotent_iff :
    (∀ node, definition.apply node = node ↔ node.calls definition.name = false) ∧
      (definition.NamesParameters →
        Node.itemsCall definition.parameters definition.name = false) ∧
      (Node.itemsCall definition.parameters definition.name = false ↔
        ∀ node, (definition.apply node).calls definition.name = false ∧
          definition.apply (definition.apply node) = definition.apply node) := by
  refine ⟨apply_eq_self_iff unreserved, fun named => named.itemsCall _,
    apply_complete unreserved silent, fun complete => ?_⟩
  rw [← calls_apply_call unreserved silent]
  exact (complete _).1

end

/-- A form that defines the sum of two numbers. -/
def sumForm : List Node :=
  [.string "define", .string "add", .string "a", .string "b",
    .quotedList [.string "+", .string "a", .string "b"]]

def sum : Definition :=
  ⟨"add", [.string "a", .string "b"], .quotedList [.string "+", .string "a", .string "b"]⟩

/-- A call inside of another one, and a call in a quote. -/
def nestedSums : Node :=
  .list [.string "add", .list [.string "add", .number 1.0, .number 2.0],
    .quotedList [.string "add", .number 3.0]]

/-- All three calls are expanded at once. -/
theorem nestedSums_expanded :
    sum.name ≠ Standard.lambdaName ∧ sum.body.calls sum.name = false ∧ sum.NamesParameters ∧
      nestedSums.calls sum.name = true ∧ (sum.apply nestedSums).calls sum.name = false ∧
      sum.apply (sum.apply nestedSums) = sum.apply nestedSums ∧
      sum.apply nestedSums ≠ nestedSums := by
  have called : nestedSums.calls sum.name = true := by decide
  have made : ofForm sumForm = .ok sum := rfl
  have named := namesParameters_of_ofForm made
  obtain ⟨unchanged, quiet, complete⟩ :=
    @apply_complete_idempotent_iff sum (by decide) (by decide)
  obtain ⟨gone, idempotent⟩ := complete.mp (quiet named) nestedSums
  refine ⟨by decide, by decide, named, called, gone, idempotent, fun same => ?_⟩
  rw [(unchanged nestedSums).mp same] at called
  exact Bool.false_ne_true called

/-- A definition of `add` whose only parameter is a call of `add`. -/
def selfNaming : Definition :=
  ⟨"add", [.list [.string "add"]], .quotedList [.string "+"]⟩

/-- A parameter that is a call brings the call back with every expansion. -/
theorem selfNaming_brings_call_back :
    let call := Node.list [.string "add"]
    selfNaming.name ≠ Standard.lambdaName ∧ selfNaming.body.calls selfNaming.name = false ∧
      (selfNaming.apply call).calls selfNaming.name = true ∧
      selfNaming.apply (selfNaming.apply call) ≠ selfNaming.apply call := by
  intro call
  have unreserved : selfNaming.name ≠ Standard.lambdaName := by decide
  have left : (selfNaming.apply call).calls selfNaming.name = true := by decide
  refine ⟨unreserved, by decide, left, fun same => ?_⟩
  rw [(apply_eq_self_iff unreserved _).mp same] at left
  exact Bool.false_ne_true left

end Reduct.Definition
