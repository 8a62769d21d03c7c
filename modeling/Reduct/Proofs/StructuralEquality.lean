import Reduct.Proofs.Canonical
/-! This file shows that structural equality is an equivalence. Two nodes have one structure when
they are the same up to the signs of their zeros. The equality of nodes asks the same of them, and
that no number in them is none. -/

namespace Reduct

/-- The negative zero loses its sign. -/
def Number.unsignedZero (value : Float) : Float :=
  if value = -0.0 then 0.0 else value

theorem Number.beq_or_isNaN_iff (left right : Float) :
    (left == right || (left.isNaN && right.isNaN)) = true ↔
      unsignedZero left = unsignedZero right := by
  have positive : (0 : Float) = 0.0 := by decide +kernel
  have number : (0.0 : Float) ≠ Float.nan := by decide +kernel
  have opposite : (-0.0 : Float) ≠ Float.nan := by decide +kernel
  rw [Bool.or_eq_true, Bool.and_eq_true, Float.beq_iff_ne_nan_and_eq, positive,
    Float.isNaN_eq_decide_eq_nan, Float.isNaN_eq_decide_eq_nan, decide_eq_true_iff,
    decide_eq_true_iff, unsignedZero, unsignedZero]
  clear positive
  generalize (-0.0 : Float) = negativeZero at *
  generalize (0.0 : Float) = zero at *
  split_ifs <;> grind

namespace Node

mutual

/-- The zeros of a node lose their signs. -/
def unsigned : Node → Node
  | .number value => .number (Number.unsignedZero value)
  | .map entries => .map (unsignedEntries entries)
  | .list items => .list (unsignedItems items)
  | .quote inner => .quote (unsigned inner)
  | .null => .null
  | .bool value => .bool value
  | .string text => .string text

def unsignedItems : List Node → List Node
  | [] => []
  | item :: rest => unsigned item :: unsignedItems rest

def unsignedEntries : List (String × Node) → List (String × Node)
  | [] => []
  | (key, value) :: rest => (key, unsigned value) :: unsignedEntries rest

end

mutual

/-- Nodes have one structure when they are the same without the signs of their zeros. -/
theorem sameStructure_iff : ∀ left right : Node,
    left.sameStructure right = true ↔ left.unsigned = right.unsigned
  | .number left, right => by
    cases right with
    | number right =>
        rw [sameStructure, agree, Number.beq_or_isNaN_iff, unsigned, unsigned, number.injEq]
    | _ => simp [sameStructure, agree, unsigned]
  | .map left, right => by
    cases right with
    | map right =>
        rw [sameStructure, agree, agreeEntries_same_iff left right, unsigned, unsigned, map.injEq]
    | _ => simp [sameStructure, agree, unsigned]
  | .list left, right => by
    cases right with
    | list right =>
        rw [sameStructure, agree, agreeItems_same_iff left right, unsigned, unsigned, list.injEq]
    | _ => simp [sameStructure, agree, unsigned]
  | .quote left, right => by
    cases right with
    | quote right =>
        rw [sameStructure, agree, ← sameStructure, sameStructure_iff left right, unsigned, unsigned,
          quote.injEq]
    | _ => simp [sameStructure, agree, unsigned]
  | .null, right | .bool _, right | .string _, right => by
    cases right <;> simp [sameStructure, agree, unsigned]

theorem agreeItems_same_iff : ∀ left right : List Node,
    agreeItems (fun a b => a == b || (a.isNaN && b.isNaN)) left right = true ↔
      unsignedItems left = unsignedItems right
  | [], [] => by simp [agreeItems, unsignedItems]
  | [], _ :: _ => by simp [agreeItems, unsignedItems]
  | _ :: _, [] => by simp [agreeItems, unsignedItems]
  | left :: lefts, right :: rights => by
    rw [agreeItems, Bool.and_eq_true, ← sameStructure, sameStructure_iff left right,
      agreeItems_same_iff lefts rights, unsignedItems, unsignedItems, List.cons.injEq]

theorem agreeEntries_same_iff : ∀ left right : List (String × Node),
    agreeEntries (fun a b => a == b || (a.isNaN && b.isNaN)) left right = true ↔
      unsignedEntries left = unsignedEntries right
  | [], [] => by simp [agreeEntries, unsignedEntries]
  | [], _ :: _ => by simp [agreeEntries, unsignedEntries]
  | _ :: _, [] => by simp [agreeEntries, unsignedEntries]
  | (leftKey, left) :: lefts, (rightKey, right) :: rights => by
    rw [agreeEntries, Bool.and_eq_true, Bool.and_eq_true, beq_iff_eq, ← sameStructure,
      sameStructure_iff left right, agreeEntries_same_iff lefts rights, unsignedEntries,
      unsignedEntries, List.cons.injEq, Prod.mk.injEq]

end

/-- Every number in the node, at any depth, is one. -/
def NaNFree (node : Node) : Prop :=
  ∀ value : Float, node.Contains (.number value) → value.isNaN = false

theorem naNFree_number (value : Float) : (number value).NaNFree ↔ value.isNaN = false := by
  constructor
  · exact fun free => free value (.self _)
  · rintro number _ ⟨⟩
    exact number

theorem naNFree_list (items : List Node) :
    (list items).NaNFree ↔ ∀ item ∈ items, item.NaNFree := by
  constructor
  · exact fun free item member value inside => free value (.item member inside)
  · rintro free value inside
    cases inside with
    | item member inside => exact free _ member value inside

theorem naNFree_map (entries : List (String × Node)) :
    (map entries).NaNFree ↔ ∀ entry ∈ entries, entry.2.NaNFree := by
  constructor
  · exact fun free entry member value inside => free value (.entry member inside)
  · rintro free value inside
    cases inside with
    | entry member inside => exact free _ member value inside

theorem naNFree_quote (inner : Node) : (quote inner).NaNFree ↔ inner.NaNFree := by
  constructor
  · exact fun free value inside => free value (.content inside)
  · rintro free value inside
    cases inside with
    | content inside => exact free value inside

theorem naNFree_null : null.NaNFree := by
  rintro value ⟨⟩

theorem naNFree_bool (value : Bool) : (bool value).NaNFree := by
  rintro value ⟨⟩

theorem naNFree_string (text : String) : (string text).NaNFree := by
  rintro value ⟨⟩

mutual

/-- Nodes are equal when they have one structure and all their numbers are numbers. -/
theorem equal_iff : ∀ left right : Node,
    left.equal right = true ↔ left.sameStructure right = true ∧ left.NaNFree
  | .number left, right => by
    cases right with
    | number right =>
        rw [equal, sameStructure, agree, agree, naNFree_number]
        cases none : left.isNaN with
        | true =>
            rw [Float.isNaN_eq_decide_eq_nan, decide_eq_true_iff] at none
            simp [none]
        | false => simp
    | _ => simp [equal, sameStructure, agree]
  | .map left, right => by
    cases right with
    | map right =>
        rw [equal, sameStructure, agree, agree, naNFree_map]
        exact agreeEntries_equal_iff left right
    | _ => simp [equal, sameStructure, agree]
  | .list left, right => by
    cases right with
    | list right =>
        rw [equal, sameStructure, agree, agree, naNFree_list]
        exact agreeItems_equal_iff left right
    | _ => simp [equal, sameStructure, agree]
  | .quote left, right => by
    cases right with
    | quote right =>
        rw [equal, sameStructure, agree, agree, naNFree_quote]
        exact equal_iff left right
    | _ => simp [equal, sameStructure, agree]
  | .null, right | .bool _, right | .string _, right => by
    cases right <;>
      simp [equal, sameStructure, agree, naNFree_null, naNFree_bool, naNFree_string]

theorem agreeItems_equal_iff : ∀ left right : List Node,
    agreeItems (· == ·) left right = true ↔
      agreeItems (fun a b => a == b || (a.isNaN && b.isNaN)) left right = true ∧
        ∀ item ∈ left, item.NaNFree
  | [], [] => by simp [agreeItems]
  | [], _ :: _ => by simp [agreeItems]
  | _ :: _, [] => by simp [agreeItems]
  | left :: lefts, right :: rights => by
    have first := equal_iff left right
    rw [equal, sameStructure] at first
    rw [agreeItems, agreeItems, Bool.and_eq_true, Bool.and_eq_true, first,
      agreeItems_equal_iff lefts rights, List.forall_mem_cons]
    tauto

theorem agreeEntries_equal_iff : ∀ left right : List (String × Node),
    agreeEntries (· == ·) left right = true ↔
      agreeEntries (fun a b => a == b || (a.isNaN && b.isNaN)) left right = true ∧
        ∀ entry ∈ left, entry.2.NaNFree
  | [], [] => by simp [agreeEntries]
  | [], _ :: _ => by simp [agreeEntries]
  | _ :: _, [] => by simp [agreeEntries]
  | (leftKey, left) :: lefts, (rightKey, right) :: rights => by
    have first := equal_iff left right
    rw [equal, sameStructure] at first
    rw [agreeEntries, agreeEntries, Bool.and_eq_true, Bool.and_eq_true, Bool.and_eq_true,
      Bool.and_eq_true, first, agreeEntries_equal_iff lefts rights, List.forall_mem_cons]
    tauto

end

/-- Structural equality is reflexive, symmetric and transitive. Among nodes whose numbers are
numbers it is the equality of nodes, which overlooks the signs of zeros. -/
theorem sameStructure_equivalence :
    Equivalence (fun left right : Node => left.sameStructure right = true) ∧
      ∀ left right : Node, left.NaNFree → right.NaNFree →
        left.sameStructure right = left.equal right ∧
          (left.equal right = true ↔ left.unsigned = right.unsigned) := by
  refine ⟨⟨fun node => ?_, fun {left right} same => ?_, fun {left middle right} first second => ?_⟩,
    fun left right leftFree _ => ?_⟩
  · rw [sameStructure_iff]
  · rw [sameStructure_iff] at same ⊢
    exact same.symm
  · rw [sameStructure_iff] at first second ⊢
    exact first.trans second
  · have equal := equal_iff left right
    rw [and_iff_left leftFree] at equal
    exact ⟨Bool.eq_iff_iff.mpr equal.symm, equal.trans (sameStructure_iff left right)⟩

/-- A map with a zero in a list and a number in a quote. -/
def zeroInside (zero : Float) : Node :=
  .map [("a", .list [.string "f", .number zero]), ("b", .quote (.number 2.5))]

theorem naNFree_zeroInside (zero : Float) (number : zero.isNaN = false) :
    (zeroInside zero).NaNFree := by
  have other : (2.5 : Float).isNaN = false := by decide +kernel
  have list : (Node.list [.string "f", .number zero]).NaNFree := by
    rw [naNFree_list, List.forall_mem_cons, List.forall_mem_singleton]
    exact ⟨naNFree_string "f", (naNFree_number zero).mpr number⟩
  have quote : (Node.quote (.number 2.5)).NaNFree :=
    (naNFree_quote _).mpr ((naNFree_number 2.5).mpr other)
  rw [zeroInside, naNFree_map, List.forall_mem_cons, List.forall_mem_singleton]
  exact ⟨list, quote⟩

/-- Zeros of both signs are equal at any depth. What is no number has its own structure, and still
it does not equal itself. -/
theorem zeroInside_same :
    (zeroInside 0.0).NaNFree ∧ (zeroInside (-0.0)).NaNFree ∧
      (zeroInside 0.0).sameStructure (zeroInside (-0.0)) =
        (zeroInside 0.0).equal (zeroInside (-0.0)) ∧
      (zeroInside 0.0).equal (zeroInside (-0.0)) = true ∧
      (zeroInside Number.notANumber).sameStructure (zeroInside Number.notANumber) = true ∧
      (zeroInside Number.notANumber).equal (zeroInside Number.notANumber) = false := by
  have positive := naNFree_zeroInside 0.0 (by decide +kernel)
  have negative := naNFree_zeroInside (-0.0) (by decide +kernel)
  obtain ⟨same, equal⟩ := sameStructure_equivalence.2 _ _ positive negative
  refine ⟨positive, negative, same, equal.mpr ?_, sameStructure_equivalence.1.refl _, ?_⟩
  · have unsigned : Number.unsignedZero 0.0 = Number.unsignedZero (-0.0) := by decide +kernel
    simp [zeroInside, Node.unsigned, unsignedItems, unsignedEntries, unsigned]
  · have unequal : (Number.notANumber == Number.notANumber) = false := by decide +kernel
    simp [zeroInside, Node.equal, agree, agreeItems, agreeEntries, unequal]

end Node

end Reduct
