import Reduct.Proofs.Weight

namespace Reduct

/-- An expression is a number or a call on expressions. -/
inductive Expression where
  | number (value : Float)
  | call (name : String) (count : Nat) (arguments : Fin count → Expression)

namespace Expression

def toNode : Expression → Node
  | .number value => .number value
  | .call name _ arguments =>
    .list (.string name :: List.ofFn fun index => (arguments index).toNode)

/-- Numbers have no height, and a call stands above its highest argument. -/
def height : Expression → Nat
  | .number _ => 0
  | .call _ _ arguments => (Finset.univ.sup fun index => (arguments index).height) + 1

/-- The value from the bottom up, when names mean functions on numbers. -/
def value (meaning : String → List Float → Float) : Expression → Float
  | .number value => value
  | .call name _ arguments => meaning name (List.ofFn fun index => (arguments index).value meaning)

def isNumber : Expression → Bool
  | .number _ => true
  | .call _ _ _ => false

/-- Every part up to a height becomes the number of its value. -/
def collapse (meaning : String → List Float → Float) (level : Nat) : Expression → Expression
  | .number value => .number value
  | .call name count arguments =>
    if (call name count arguments).height ≤ level then
      .number ((call name count arguments).value meaning)
    else .call name count fun index => (arguments index).collapse meaning level

/-- Every call on numbers becomes the number of its value. -/
def reduce (meaning : String → List Float → Float) : Expression → Expression
  | .number value => .number value
  | .call name count arguments =>
    if ∀ index, (arguments index).isNumber then
      .number ((call name count arguments).value meaning)
    else .call name count fun index => (arguments index).reduce meaning

variable (meaning : String → List Float → Float)

theorem isNumber_iff_height (expression : Expression) :
    expression.isNumber = true ↔ expression.height = 0 := by
  cases expression <;> simp [isNumber, height]

/-- A call is as high as one exactly when its arguments are numbers. -/
theorem height_le_one_iff (name : String) (count : Nat) (arguments : Fin count → Expression) :
    (call name count arguments).height ≤ 1 ↔ ∀ index, (arguments index).isNumber = true := by
  simp [height, isNumber_iff_height]

theorem height_call_le_iff (name : String) (count : Nat) (arguments : Fin count → Expression)
    (level : Nat) :
    (call name count arguments).height ≤ level + 1 ↔
      ∀ index, (arguments index).height ≤ level := by
  simp [height]

/-- Reducing keeps the value. -/
@[simp] theorem value_reduce (expression : Expression) :
    (expression.reduce meaning).value meaning = expression.value meaning := by
  induction expression with
  | number value => rfl
  | call name count arguments inductionHypothesis =>
      rw [reduce]
      split_ifs
      · rfl
      · simp only [value, inductionHypothesis]

/-- Reducing takes one off the height. -/
theorem height_reduce_le_iff (expression : Expression) (level : Nat) :
    (expression.reduce meaning).height ≤ level ↔ expression.height ≤ level + 1 := by
  induction expression generalizing level with
  | number value => simp [reduce, height]
  | call name count arguments inductionHypothesis =>
      rw [reduce]
      split_ifs with ready
      · have low := (height_le_one_iff name count arguments).mpr ready
        simp only [height, Nat.zero_le, true_iff]
        exact low.trans (Nat.le_add_left 1 level)
      · cases level with
        | zero =>
            have tall := (height_le_one_iff name count arguments).not.mpr ready
            exact iff_of_false (by simp [height]) tall
        | succ level => simp [height_call_le_iff, inductionHypothesis]

theorem height_reduce (expression : Expression) :
    (expression.reduce meaning).height = expression.height - 1 := by
  apply eq_of_forall_ge_iff
  intro level
  rw [height_reduce_le_iff]
  omega

/-- Collapsing by one level more is reducing first. -/
theorem collapse_reduce (expression : Expression) (level : Nat) :
    (expression.reduce meaning).collapse meaning level =
      expression.collapse meaning (level + 1) := by
  induction expression with
  | number value => rfl
  | call name count arguments inductionHypothesis =>
      have lower := height_reduce_le_iff meaning (call name count arguments) level
      have same := value_reduce meaning (call name count arguments)
      rw [reduce] at lower same ⊢
      split_ifs at lower same ⊢ with ready
      · have low : (call name count arguments).height ≤ level + 1 := lower.mp (by simp [height])
        rw [collapse, collapse, if_pos low]
      · rw [collapse, collapse]
        simp only [lower, same, inductionHypothesis]

@[simp] theorem collapse_zero (expression : Expression) :
    expression.collapse meaning 0 = expression := by
  induction expression with
  | number value => rfl
  | call name count arguments inductionHypothesis =>
      have high : ¬ (call name count arguments).height ≤ 0 := by simp [height]
      rw [collapse, if_neg high]
      simp only [inductionHypothesis]

theorem weight_toNode_call (name : String) (count : Nat) (arguments : Fin count → Expression) :
    (call name count arguments).toNode.weight =
      3 + ∑ index, (arguments index).toNode.weight := by
  simp only [toNode, Node.weight, Node.weights, Node.weights_eq_sum, List.map_ofFn, List.sum_ofFn,
    Function.comp_apply]
  omega

/-- Reducing a call makes its program lighter. -/
theorem weight_reduce (expression : Expression) :
    (expression.reduce meaning).toNode.weight ≤ expression.toNode.weight ∧
      (expression.isNumber = false →
        (expression.reduce meaning).toNode.weight < expression.toNode.weight) := by
  induction expression with
  | number value => simp [reduce, isNumber]
  | call name count arguments inductionHypothesis =>
      suffices lighter : ((call name count arguments).reduce meaning).toNode.weight <
          (call name count arguments).toNode.weight from ⟨lighter.le, fun _ => lighter⟩
      rw [reduce]
      split_ifs with ready
      · rw [weight_toNode_call]
        simp only [toNode, Node.weight]
        omega
      · obtain ⟨index, nested⟩ := not_forall.mp ready
        rw [weight_toNode_call, weight_toNode_call]
        apply Nat.add_lt_add_left
        apply Finset.sum_lt_sum fun other _ => (inductionHypothesis other).1
        exact ⟨index, Finset.mem_univ index, (inductionHypothesis index).2 (by simpa using nested)⟩

/-- Reducing a call changes the structure of its program. -/
theorem sameStructure_reduce (expression : Expression) (nested : expression.isNumber = false) :
    (expression.reduce meaning).toNode.sameStructure expression.toNode = false := by
  by_contra same
  have equal := Node.weight_eq_of_sameStructure (Bool.eq_true_of_not_eq_false same)
  have lighter := (weight_reduce meaning expression).2 nested
  omega

end Expression

end Reduct
