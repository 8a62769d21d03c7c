import Mathlib.Tactic
import Reduct.Proofs.WholeNumber

namespace Reduct.Number

open Float.Model Float.Model.UnpackedFloat Rounding Packing

/-- An integer is its magnitude with a sign. -/
theorem exists_apply_natAbs (units : Int) :
    ∃ sign : Sign, sign.apply (units.natAbs : Int) = units := by
  rcases Int.natAbs_eq units with same | opposite
  · exact ⟨.positive, same.symm⟩
  · exact ⟨.negative, opposite.symm⟩

/-- A mantissa of fifty-three bits stands for less than `2 ^ 53` unless its exponent is above
zero. -/
theorem lt_two_pow_iff (mantissa units : Nat) (exponent : Int) (lower : 2 ^ 52 ≤ mantissa)
    (upper : mantissa < 2 ^ 53) (value : (mantissa : ℚ) * 2 ^ exponent = units) :
    units < 2 ^ 53 ↔ exponent ≤ 0 := by
  have cast : units < 2 ^ 53 ↔ (mantissa : ℚ) * 2 ^ exponent < 2 ^ (53 : Int) := by
    rw [value]
    exact_mod_cast Iff.rfl
  rw [cast]
  constructor
  · intro small
    by_contra large
    have scale : (2 : ℚ) ^ (1 : Int) ≤ 2 ^ exponent :=
      zpow_le_zpow_right₀ (by norm_num) (by omega)
    have mantissaCast : (2 : ℚ) ^ (52 : Int) ≤ mantissa := by exact_mod_cast lower
    have product := mul_le_mul mantissaCast scale (by positivity) (by positivity)
    rw [← zpow_add₀ (by norm_num)] at product
    exact absurd small (not_lt.mpr product)
  · intro small
    have scale : (2 : ℚ) ^ exponent ≤ 2 ^ (0 : Int) :=
      zpow_le_zpow_right₀ (by norm_num) small
    have mantissaCast : (mantissa : ℚ) < 2 ^ (53 : Int) := by exact_mod_cast upper
    have above : (0 : ℚ) ≤ mantissa := by positivity
    rw [zpow_zero] at scale
    calc (mantissa : ℚ) * 2 ^ exponent ≤ mantissa * 1 := mul_le_mul_of_nonneg_left scale above
      _ < 2 ^ (53 : Int) := by rwa [mul_one]

/-- The comparison of a whole double with `2 ^ 53` is that of its magnitude. -/
theorem abs_lt_iff (value : Float) (units : Int) (whole : integer? value = some units) :
    value.abs < 9007199254740992.0 ↔ units.natAbs < 2 ^ 53 := by
  have bound : (9007199254740992.0 : Float).toModel.unpack =
      .finite .positive (2 ^ 52) 1 (by norm_num) := by
    have bits : (9007199254740992.0 : Float) = Float.ofBits 0x4340000000000000 := by
      decide +kernel
    rw [bits]
    rfl
  change decide ((Float.Model.pack value.toModel.unpack.abs).unpack.lt
    (9007199254740992.0 : Float).toModel.unpack = true) = true ↔ _
  rw [bound, decide_eq_true_iff]
  by_cases zero : units = 0
  · subst zero
    obtain ⟨sign, unpacks⟩ := zero_of_integer? value whole
    simp [unpacks, UnpackedFloat.abs, UnpackedFloat.lt, UnpackedFloat.compare]
  · obtain ⟨sign, magnitude⟩ := exists_apply_natAbs units
    rw [← magnitude] at whole
    obtain ⟨mantissa, exponent, nonzero, unpacks, lower, holds⟩ :=
      finite_of_integer? value sign units.natAbs (Int.natAbs_pos.mpr zero) whole
    obtain ⟨upper, low, high, -⟩ := unpack_finite_bounds _ sign mantissa exponent nonzero unpacks
    rw [lt_two_pow_iff mantissa _ exponent lower upper holds, unpacks, UnpackedFloat.abs,
      unpack_pack_normal .positive mantissa exponent nonzero lower upper low, if_pos high]
    simp only [UnpackedFloat.lt, UnpackedFloat.compare, beq_iff_eq, Option.some_inj,
      Ordering.then_eq_lt, compare_lt_iff_lt, compare_eq_iff_eq]
    omega

/-- Two finite doubles with the same fields are the same. -/
theorem eq_of_ofFloat? (left right : Float) (binary : Binary)
    (leftFields : Binary.ofFloat? left = some binary)
    (rightFields : Binary.ofFloat? right = some binary) : left = right := by
  have same (leftBinary rightBinary : Binary) (leftSame : some leftBinary = some binary)
      (rightSame : some rightBinary = some binary) :
      (leftBinary.negative = true ↔ rightBinary.negative = true) ∧
        leftBinary.significand = rightBinary.significand ∧
        leftBinary.exponent = rightBinary.exponent := by
    cases leftSame
    cases rightSame
    exact ⟨Iff.rfl, rfl, rfl⟩
  have bits : left.toBits.toNat = right.toBits.toNat := by
    have leftBound := left.toBits.toNat_lt
    have rightBound := right.toBits.toNat_lt
    simp only [Binary.ofFloat?, Nat.pow_eq] at leftFields rightFields
    split_ifs at leftFields rightFields
    all_goals
      obtain ⟨sign, significand, exponent⟩ := same _ _ leftFields rightFields
      simp only [beq_iff_eq] at sign significand exponent
      omega
  have words : left.toModel.toBits = right.toModel.toBits := UInt64.toNat_inj.mp bits
  obtain ⟨⟨leftBits, _⟩⟩ := left
  obtain ⟨⟨rightBits, _⟩⟩ := right
  cases words
  rfl

/-- Of two mantissas of fifty-three bits for one value, neither has the larger exponent. -/
theorem exponent_le (first second : Nat) (firstExponent secondExponent : Int)
    (lower : 2 ^ 52 ≤ first) (upper : second < 2 ^ 53)
    (same : (first : ℚ) * 2 ^ firstExponent = second * 2 ^ secondExponent) :
    firstExponent ≤ secondExponent := by
  by_contra larger
  have scale : (2 : ℚ) ^ (secondExponent + 1) ≤ 2 ^ firstExponent :=
    zpow_le_zpow_right₀ (by norm_num) (by omega)
  have firstCast : (2 : ℚ) ^ 52 ≤ first := by exact_mod_cast lower
  have secondCast : (second : ℚ) < 2 ^ 53 := by exact_mod_cast upper
  have unit : (0 : ℚ) < 2 ^ secondExponent := by positivity
  have below : (second : ℚ) * 2 ^ secondExponent < first * 2 ^ firstExponent := by
    calc (second : ℚ) * 2 ^ secondExponent
        < 2 ^ 53 * 2 ^ secondExponent := mul_lt_mul_of_pos_right secondCast unit
      _ = 2 ^ 52 * 2 ^ (secondExponent + 1) := by rw [zpow_add_one₀ (by norm_num)]; ring
      _ ≤ first * 2 ^ firstExponent := by gcongr
  exact absurd same below.ne'

/-- A whole number other than zero is held by one double. -/
theorem eq_of_integer? (left right : Float) (units : Int) (nonzero : units ≠ 0)
    (leftWhole : integer? left = some units) (rightWhole : integer? right = some units) :
    left = right := by
  obtain ⟨sign, magnitude⟩ := exists_apply_natAbs units
  rw [← magnitude] at leftWhole rightWhole
  obtain ⟨leftMantissa, leftExponent, leftNonzero, leftUnpacks, leftLower, leftValue⟩ :=
    finite_of_integer? left sign units.natAbs (Int.natAbs_pos.mpr nonzero) leftWhole
  obtain ⟨rightMantissa, rightExponent, rightNonzero, rightUnpacks, rightLower, rightValue⟩ :=
    finite_of_integer? right sign units.natAbs (Int.natAbs_pos.mpr nonzero) rightWhole
  obtain ⟨leftUpper, -⟩ := unpack_finite_bounds _ _ _ _ _ leftUnpacks
  obtain ⟨rightUpper, -⟩ := unpack_finite_bounds _ _ _ _ _ rightUnpacks
  have values := leftValue.trans rightValue.symm
  obtain rfl : leftExponent = rightExponent := le_antisymm
    (exponent_le _ _ _ _ leftLower rightUpper values)
    (exponent_le _ _ _ _ rightLower leftUpper values.symm)
  obtain rfl : leftMantissa = rightMantissa := by
    have mantissas := mul_right_cancel₀ (by positivity) values
    exact_mod_cast mantissas
  refine eq_of_ofFloat? left right ⟨sign == .negative, leftMantissa, leftExponent⟩ ?_ ?_
  · rw [ofFloat?_eq, leftUnpacks, parts?]
  · rw [ofFloat?_eq, rightUnpacks, parts?]

/-- An integer below `2 ^ 53` is held by its double. -/
theorem integer?_ofInt (units : Int) (small : units.natAbs < 2 ^ 53) :
    integer? (Float.ofInt units) = some units := by
  have natural (count : Nat) (positive : 0 < count) (small : count < 2 ^ 53) :
      integer? (Float.ofNat count) = some (count : Int) := by
    obtain ⟨unpacked, rounds, same⟩ := exists_rounds_ofNat count positive
    rw [integer?_eq_some_iff, same]
    exact packed_of_small .positive count unpacked (rounds.isRounded positive) small
  cases units with
  | ofNat count =>
    rcases Nat.eq_zero_or_pos count with rfl | positive
    · decide +kernel
    · exact natural count positive small
  | negSucc count => exact integer?_neg _ _ (natural (count + 1) (Nat.succ_pos count) small)

/-- A whole double below `2 ^ 53` that is not the negative zero is the double of its integer. -/
theorem ofInt_of_integer? (value : Float) (units : Int) (whole : integer? value = some units)
    (small : units.natAbs < 2 ^ 53) (unsigned : value ≠ -0.0) : Float.ofInt units = value := by
  by_cases zero : units = 0
  · subst zero
    obtain ⟨sign, unpacks⟩ := zero_of_integer? value whole
    have fields : Binary.ofFloat? value = some ⟨sign == .negative, 0, -1074⟩ := by
      rw [ofFloat?_eq, unpacks, parts?]
    cases sign with
    | positive => exact eq_of_ofFloat? _ _ _ (by decide +kernel) fields
    | negative => exact absurd (eq_of_ofFloat? _ _ _ fields (by decide +kernel)) unsigned
  · exact eq_of_integer? _ _ units zero (integer?_ofInt units small) whole

end Reduct.Number
