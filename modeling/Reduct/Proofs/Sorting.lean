import Mathlib.Tactic
import Reduct.Standard.Listing

namespace Reduct

open Float.Model

/-- The place of an unpacked number in the order of numbers. The exponent decides before the
mantissa, and negative numbers stand the other way around. -/
def unpackedRank : UnpackedFloat → ℤ ×ₗ ℤ ×ₗ ℤ
  | .infinity .negative => toLex (-2, toLex (0, 0))
  | .finite .negative mantissa exponent _ => toLex (-1, toLex (-exponent, -mantissa))
  | .zero _ => toLex (0, toLex (0, 0))
  | .finite .positive mantissa exponent _ => toLex (1, toLex (exponent, mantissa))
  | .infinity .positive => toLex (2, toLex (0, 0))
  | .notANumber => toLex (0, toLex (0, 0))

theorem then_compare_eq_lt (leftExponent rightExponent : ℤ) (leftMantissa rightMantissa : ℕ) :
    (compare leftExponent rightExponent).then (compare leftMantissa rightMantissa) = .lt ↔
      leftExponent < rightExponent ∨
        leftExponent = rightExponent ∧ leftMantissa < rightMantissa := by
  rw [Ordering.then_eq_lt, compare_lt_iff_lt, compare_eq_iff_eq, compare_lt_iff_lt]

/-- Unpacked numbers compare as their ranks do. -/
theorem compare_unpacked {left right : UnpackedFloat} (leftNumber : left.isNaN = false)
    (rightNumber : right.isNaN = false) :
    (left.compare right = some .lt ↔ unpackedRank left < unpackedRank right) ∧
      (left.compare right = some .eq ↔ unpackedRank left = unpackedRank right) := by
  have backwards (leftExponent rightExponent : ℤ) (leftMantissa rightMantissa : ℕ) :
      (compare leftExponent rightExponent).then (compare leftMantissa rightMantissa) = .gt ↔
        rightExponent < leftExponent ∨
          leftExponent = rightExponent ∧ rightMantissa < leftMantissa := by
    rw [Ordering.then_eq_gt, compare_gt_iff_gt, compare_eq_iff_eq, compare_gt_iff_gt]
  -- Only two finite numbers of one sign need more than their kinds and their signs.
  rcases left with leftSign | _ | leftSign | ⟨leftSign, leftMantissa, leftExponent, _⟩
  all_goals try cases leftNumber
  all_goals
    rcases right with rightSign | _ | rightSign | ⟨rightSign, rightMantissa, rightExponent, _⟩
    all_goals try cases rightNumber
    all_goals
      cases leftSign
      all_goals
        cases rightSign
        all_goals
          dsimp only [UnpackedFloat.compare, unpackedRank]
          simp [Prod.Lex.toLex_lt_toLex, then_compare_eq_lt, backwards]
          try rfl

/-- The place of a number in the order of numbers. -/
def rank (value : Float) : ℤ ×ₗ ℤ ×ₗ ℤ :=
  unpackedRank value.toModel.unpack

section

variable {left right : Float}

theorem lt_iff_rank_lt (leftNumber : left.isNaN = false) (rightNumber : right.isNaN = false) :
    left < right ↔ rank left < rank right := by
  rw [rank, rank, ← (compare_unpacked leftNumber rightNumber).1]
  change decide (left.toModel < right.toModel) = true ↔ _
  rw [decide_eq_true_iff]
  change (left.toModel.unpack.compare right.toModel.unpack == some .lt) = true ↔ _
  exact beq_iff_eq

theorem beq_iff_rank_eq (leftNumber : left.isNaN = false) (rightNumber : right.isNaN = false) :
    (left == right) = true ↔ rank left = rank right := by
  rw [rank, rank, ← (compare_unpacked leftNumber rightNumber).2]
  change (left.toModel.unpack.compare right.toModel.unpack == some .eq) = true ↔ _
  exact beq_iff_eq

theorem le_iff_rank_le (leftNumber : left.isNaN = false) (rightNumber : right.isNaN = false) :
    left ≤ right ↔ rank left ≤ rank right := by
  rw [le_iff_lt_or_eq, rank, rank, ← (compare_unpacked leftNumber rightNumber).1,
    ← (compare_unpacked leftNumber rightNumber).2]
  change decide (left.toModel ≤ right.toModel) = true ↔ _
  rw [decide_eq_true_iff]
  change (left.toModel.unpack.compare right.toModel.unpack).any (·.isLE) = true ↔ _
  rcases left.toModel.unpack.compare right.toModel.unpack with _ | _ | _ | _ <;> decide

end

namespace Standard

/-- Keys that are numbers are ordered by their ranks. -/
theorem compareKeys_number {left right : Float} (leftNumber : left.isNaN = false)
    (rightNumber : right.isNaN = false) :
    (compareKeys (.number left) (.number right) != .gt) = decide (rank left ≤ rank right) := by
  rw [compareKeys, compareNumbers]
  simp only [lt_iff_rank_lt leftNumber rightNumber, lt_iff_rank_lt rightNumber leftNumber,
    beq_iff_rank_eq leftNumber rightNumber]
  rcases lt_trichotomy (rank left) (rank right) with less | same | greater
  · rw [if_pos less, decide_eq_true less.le]
    rfl
  · rw [if_neg same.not_lt, if_pos same, decide_eq_true same.le]
    rfl
  · rw [if_neg greater.not_gt, if_neg greater.ne', if_pos greater, decide_eq_false greater.not_ge]
    rfl

variable (key : Float → Float)

/-- A number may stand before another one when its key has no higher rank. -/
def precedes (left right : Float) : Bool :=
  rank (key left) ≤ rank (key right)

theorem precedes_trans (first second third : Float) (before : precedes key first second = true)
    (after : precedes key second third = true) : precedes key first third = true := by
  simp only [precedes, decide_eq_true_eq] at *
  exact before.trans after

theorem precedes_total (first second : Float) :
    (precedes key first second || precedes key second first) = true := by
  simpa [precedes] using le_total (rank (key first)) (rank (key second))

/-- Numbers whose keys are numbers are sorted by the ranks of their keys. -/
theorem sortBy_numbers {numbers : List Float} {result : Float → Node}
    (keyed : ∀ number ∈ numbers, result number = .number (key number))
    (ordered : ∀ number ∈ numbers, (key number).isNaN = false) :
    sortBy (numbers.map .number) (numbers.map result) =
      (numbers.mergeSort (precedes key)).map .number := by
  have same : ∀ left ∈ numbers, ∀ right ∈ numbers, precedes key left right =
      (compareKeys (result left) (result right) != .gt) := by
    intro left leftMember right rightMember
    rw [keyed left leftMember, keyed right rightMember,
      compareKeys_number (ordered left leftMember) (ordered right rightMember)]
    rfl
  have zipped : (numbers.map Node.number).zip (numbers.map result) =
      numbers.map fun number => (.number number, result number) := by
    rw [List.zip_map']
  rw [sortBy, zipped, ← List.map_mergeSort same, List.map_map]
  rfl

/-- Sorting keeps the numbers, puts their keys in order, and leaves equal keys in their order. -/
theorem mergeSort_precedes {numbers : List Float}
    (ordered : ∀ number ∈ numbers, (key number).isNaN = false) :
    (numbers.mergeSort (precedes key)).Perm numbers ∧
      (numbers.mergeSort (precedes key)).Pairwise (fun left right => key left ≤ key right) ∧
      ∀ number ∈ numbers,
        (numbers.mergeSort (precedes key)).filter (fun other => key other == key number) =
          numbers.filter (fun other => key other == key number) := by
  have permuted := List.mergeSort_perm numbers (precedes key)
  refine ⟨permuted, ?_, fun number member => ?_⟩
  · have sorted := List.pairwise_mergeSort (precedes_trans key) (precedes_total key) numbers
    refine sorted.imp_of_mem fun leftMember rightMember before => ?_
    rw [le_iff_rank_le (ordered _ (permuted.mem_iff.mp leftMember))
      (ordered _ (permuted.mem_iff.mp rightMember))]
    simpa [precedes] using before
  · -- The numbers of one key are in order already, so that they stay a part of the sorted list.
    have even : (numbers.filter fun other => key other == key number).Pairwise
        fun left right => precedes key left right = true := by
      refine List.pairwise_of_forall_mem_list fun left leftMember right rightMember => ?_
      rw [List.mem_filter] at leftMember rightMember
      have leftRank := (beq_iff_rank_eq (ordered left leftMember.1) (ordered number member)).mp
        leftMember.2
      have rightRank := (beq_iff_rank_eq (ordered right rightMember.1) (ordered number member)).mp
        rightMember.2
      exact decide_eq_true (leftRank.trans rightRank.symm).le
    have kept := (List.sublist_mergeSort (precedes_trans key) (precedes_total key) even
      List.filter_sublist).filter fun other => key other == key number
    simp only [List.filter_filter, Bool.and_self] at kept
    exact (kept.eq_of_length (permuted.filter _).length_eq.symm).symm

end Standard

end Reduct
