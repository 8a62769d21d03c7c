import Mathlib.Tactic
import Reduct.Proofs.Run

namespace Reduct.Node

mutual

/-- A text weighs two and a list weighs one more than its items; any other node weighs one. -/
def weight : Node → Nat
  | .string _ => 2
  | .list items => 1 + weights items
  | _ => 1

def weights : List Node → Nat
  | [] => 0
  | item :: rest => weight item + weights rest

end

theorem weights_eq_sum (items : List Node) : weights items = (items.map weight).sum := by
  induction items with
  | nil => simp [weights]
  | cons item rest inductionHypothesis => simp [weights, inductionHypothesis]

theorem weight_pos (node : Node) : 0 < node.weight := by
  cases node <;> simp [weight]

theorem weights_pos {items : List Node} (filled : items ≠ []) : 0 < weights items := by
  obtain ⟨first, rest, rfl⟩ := List.exists_cons_of_ne_nil filled
  have least := first.weight_pos
  rw [weights]
  omega

/-- Items that agree weigh the same when each of them does. -/
theorem weights_eq_of_agreeItems (related : Float → Float → Bool) (lefts rights : List Node)
    (each : ∀ left ∈ lefts, ∀ right, agree related left right = true → left.weight = right.weight)
    (same : agreeItems related lefts rights = true) : weights lefts = weights rights := by
  induction lefts generalizing rights with
  | nil =>
      cases rights with
      | nil => rfl
      | cons right rest => simp [agreeItems] at same
  | cons left lefts inductionHypothesis =>
      cases rights with
      | nil => simp [agreeItems] at same
      | cons right rest =>
          rw [agreeItems, Bool.and_eq_true] at same
          have first := each left (.head lefts) right same.1
          have others := inductionHypothesis rest
            (fun item member => each item (.tail left member)) same.2
          rw [weights, weights, first, others]

/-- Nodes that agree weigh the same, however their numbers are related. -/
theorem weight_eq_of_agree (related : Float → Float → Bool) (left : Node) :
    ∀ right, agree related left right = true → left.weight = right.weight := by
  induction left using listInduction with
  | other node other =>
      intro right same
      cases node <;> cases right <;> simp_all [agree, isList, weight]
  | list items inductionHypothesis =>
      intro right same
      cases right with
      | list others =>
          rw [agree] at same
          rw [weight, weight,
            weights_eq_of_agreeItems related items others inductionHypothesis same]
      | _ => simp [agree] at same

theorem weight_eq_of_sameStructure {left right : Node}
    (same : left.sameStructure right = true) : left.weight = right.weight :=
  weight_eq_of_agree _ left right same

mutual

/-- A node agrees with itself when each number is related to itself. -/
theorem agree_self (related : Float → Float → Bool)
    (reflexive : ∀ value, related value value = true) :
    ∀ node, agree related node node = true
  | .null => by simp [agree]
  | .bool value => by simp [agree]
  | .number value => by simp [agree, reflexive]
  | .string text => by simp [agree]
  | .map entries => by
      rw [agree]
      exact agreeEntries_self related reflexive entries
  | .list items => by
      rw [agree]
      exact agreeItems_self related reflexive items
  | .quote inner => by
      rw [agree]
      exact agree_self related reflexive inner

theorem agreeItems_self (related : Float → Float → Bool)
    (reflexive : ∀ value, related value value = true) :
    ∀ items, agreeItems related items items = true
  | [] => by simp [agreeItems]
  | item :: rest => by
      rw [agreeItems, agree_self related reflexive item, agreeItems_self related reflexive rest]
      rfl

theorem agreeEntries_self (related : Float → Float → Bool)
    (reflexive : ∀ value, related value value = true) :
    ∀ entries, agreeEntries related entries entries = true
  | [] => by simp [agreeEntries]
  | (key, value) :: rest => by
      rw [agreeEntries, agree_self related reflexive value,
        agreeEntries_self related reflexive rest]
      simp

end

/-- Every node has the structure of itself, also when a number in it is none. -/
theorem sameStructure_self (node : Node) : node.sameStructure node = true := by
  apply agree_self
  intro value
  change (value.toModel.unpack.compare value.toModel.unpack == some .eq ||
    value.toModel.unpack.isNaN && value.toModel.unpack.isNaN) = true
  cases value.toModel.unpack with
  | infinity sign => cases sign <;> rfl
  | zero | notANumber => rfl
  | finite sign mantissa exponent =>
      have equal : (compare exponent exponent).then (compare mantissa mantissa) = .eq := by simp
      cases sign with
      | positive => exact congrArg (some · == some Ordering.eq || false) equal
      | negative => exact congrArg (some ·.swap == some Ordering.eq || false) equal

/-- A node that is lighter than another or the same. -/
def Lightened (before after : Node) : Prop :=
  after.weight < before.weight ∨ after = before

theorem Lightened.weight_le {before after : Node} (lightened : Lightened before after) :
    after.weight ≤ before.weight := by
  rcases lightened with less | rfl
  · exact less.le
  · exact le_rfl

theorem Lightened.trans {before between after : Node} (first : Lightened before between)
    (second : Lightened between after) : Lightened before after := by
  rcases second with less | rfl
  · exact .inl (less.trans_le first.weight_le)
  · exact first

@[simp] theorem weights_append (first second : List Node) :
    weights (first ++ second) = weights first + weights second := by
  simp [weights_eq_sum]

/-- Denesting takes the weight of each list that it removes. -/
theorem lightened_denest (node : Node) : Lightened node node.denest := by
  fun_induction denest node with
  | case1 inner nested inductionHypothesis =>
      have less : inner.weight < (list [inner]).weight := by simp [weight, weights]
      exact .inl (inductionHypothesis.weight_le.trans_lt less)
  | case2 inner other => exact .inr rfl
  | case3 node other => exact .inr rfl

/-- A list without its nulls is lighter, unless it has none. -/
theorem lightened_compacted (items : List Node) :
    Lightened (.list items) (Engine.compacted items) := by
  induction items with
  | nil => exact .inr rfl
  | cons item rest inductionHypothesis =>
      unfold Engine.compacted at inductionHypothesis ⊢
      have least := item.weight_pos
      have lower := inductionHypothesis.weight_le
      simp only [Lightened, weight, weights, list.injEq] at inductionHypothesis lower ⊢
      cases null : item.isNull with
      | true =>
          left
          simp only [List.filter_cons, null, Bool.not_true, Bool.false_eq_true, if_false]
          omega
      | false =>
          simp only [List.filter_cons, null, Bool.not_false, if_true, weights, List.cons.injEq,
            true_and]
          rcases inductionHypothesis with less | same
          · left
            omega
          · exact .inr same

end Reduct.Node
