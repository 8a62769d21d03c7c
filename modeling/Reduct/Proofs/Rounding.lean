import Mathlib

namespace Reduct.Rounding

open Float.Model Float.Model.UnpackedFloat

/-- Shifting divides the mantissa by a power of two. -/
theorem shift_mantissa (extended : ExtendedMantissa) (count : Nat) :
    (extended >>> count).mantissa = extended.mantissa / 2 ^ count := by
  induction count with
  | zero => simp [HShiftRight.hShiftRight, Nat.repeat]
  | succ count inductionHypothesis =>
      change (extended >>> count).mantissa / 2 = _
      rw [inductionHypothesis, Nat.div_div_eq_div_mul, Nat.pow_succ]

/-- Nothing is lost when the bits that are shifted out are zero. -/
theorem shift_of_dvd (mantissa count : Nat) (divides : 2 ^ count ∣ mantissa) :
    ExtendedMantissa.mk mantissa false false >>> count = ⟨mantissa / 2 ^ count, false, false⟩ := by
  induction count with
  | zero => simp [HShiftRight.hShiftRight, Nat.repeat]
  | succ count inductionHypothesis =>
      have shifted := inductionHypothesis (dvd_trans (pow_dvd_pow 2 count.le_succ) divides)
      have even : mantissa / 2 ^ count % 2 = 0 := by
        obtain ⟨quotient, rfl⟩ := divides
        rw [Nat.pow_succ, Nat.mul_assoc, Nat.mul_div_cancel_left _ (Nat.two_pow_pos count)]
        omega
      change (ExtendedMantissa.mk mantissa false false >>> count).shiftRightOne = _
      rw [shifted, ExtendedMantissa.shiftRightOne]
      simp [even, Nat.div_div_eq_div_mul, Nat.pow_succ]

/-- Rounding adds at most one unit in the last place. -/
theorem roundedMantissa_bounds (extended : ExtendedMantissa) :
    extended.mantissa ≤ extended.roundedMantissa ∧
      extended.roundedMantissa ≤ extended.mantissa + 1 := by
  obtain ⟨mantissa, roundBit, stickyBit⟩ := extended
  cases roundBit <;> cases stickyBit <;>
    simp only [ExtendedMantissa.roundedMantissa, ExtendedMantissa.accuracy,
      Accuracy.roundToNearestEven] <;> omega

/-- A mantissa of fifty-three bits stays where it is. -/
theorem shiftToTargetExponent_of_fits (mantissa : Nat) (exponent : Int)
    (lower : 2 ^ 52 ≤ mantissa) (upper : mantissa < 2 ^ 53) (range : -1074 ≤ exponent) :
    shiftToTargetExponent Format.binary64 mantissa exponent .exact =
      (⟨mantissa, false, false⟩, exponent) := by
  have length : mantissa.log2 = 52 := (Nat.log2_eq_iff (by omega)).mpr ⟨lower, upper⟩
  have target : Format.binary64.targetExponent (totalExponent mantissa exponent) = exponent := by
    simp only [Format.targetExponent, totalExponent, Format.mantissaBits, Format.minExponent,
      length]
    omega
  simp [shiftToTargetExponent, shiftToExponent, target, ExtendedMantissa.ofMantissaAndAccuracy,
    HShiftRight.hShiftRight, Nat.repeat]

/-- A mantissa that rounding has carried to fifty-four bits loses one of them. -/
theorem shiftToTargetExponent_of_carry (exponent : Int) (range : -1074 ≤ exponent) :
    shiftToTargetExponent Format.binary64 (2 ^ 53) exponent .exact =
      (⟨2 ^ 52, false, false⟩, exponent + 1) := by
  have target :
      Format.binary64.targetExponent (totalExponent (2 ^ 53) exponent) = exponent + 1 := by
    simp only [Format.targetExponent, totalExponent, Format.mantissaBits, Format.minExponent,
      Nat.log2_two_pow]
    omega
  have amount : (exponent + 1 - exponent).toNat = 1 := by omega
  simp only [shiftToTargetExponent, shiftToExponent, target, amount,
    ExtendedMantissa.ofMantissaAndAccuracy]
  rw [shift_of_dvd _ _ (by norm_num)]
  norm_num

/-- The first shift keeps fifty-three bits of a long mantissa whose value is at least one. -/
theorem shiftToTargetExponent_of_long (mantissa : Nat) (exponent : Int)
    (lower : 2 ^ 52 ≤ mantissa) (value : 0 ≤ (mantissa.log2 : Int) + exponent) :
    shiftToTargetExponent Format.binary64 mantissa exponent .exact =
      (ExtendedMantissa.mk mantissa false false >>> (mantissa.log2 - 52),
        exponent + (mantissa.log2 - 52 : Nat)) := by
  have long : 52 ≤ mantissa.log2 := (Nat.le_log2 (by omega)).mpr lower
  have target :
      (Format.binary64.targetExponent (totalExponent mantissa exponent) - exponent).toNat =
      mantissa.log2 - 52 := by
    simp only [Format.targetExponent, totalExponent, Format.mantissaBits, Format.minExponent]
    omega
  simp only [shiftToTargetExponent, shiftToExponent, target, ExtendedMantissa.ofMantissaAndAccuracy]

/-- The bits that the first shift keeps. -/
theorem kept_bounds (mantissa : Nat) (lower : 2 ^ 52 ≤ mantissa) :
    2 ^ 52 ≤ mantissa / 2 ^ (mantissa.log2 - 52) ∧
      mantissa / 2 ^ (mantissa.log2 - 52) < 2 ^ 53 := by
  have long : 52 ≤ mantissa.log2 := (Nat.le_log2 (by omega)).mpr lower
  obtain ⟨low, high⟩ := (Nat.log2_eq_iff (n := mantissa) (by omega)).mp rfl
  constructor
  · rw [Nat.le_div_iff_mul_le (Nat.two_pow_pos _), ← Nat.pow_add]
    rwa [show 52 + (mantissa.log2 - 52) = mantissa.log2 by omega]
  · rw [Nat.div_lt_iff_lt_mul (Nat.two_pow_pos _), ← Nat.pow_add]
    rwa [show 53 + (mantissa.log2 - 52) = mantissa.log2 + 1 by omega]

/-- Rounding a long mantissa gives fifty-three bits again, and a carry goes into the exponent. -/
theorem roundWithAccuracy_carry (sign : Sign) (mantissa : Nat) (exponent : Int)
    (lower : 2 ^ 52 ≤ mantissa) (value : 0 ≤ (mantissa.log2 : Int) + exponent) :
    ∃ (kept carry : Nat) (positive : 0 < kept),
      roundWithAccuracy Format.binary64 sign mantissa exponent .exact =
        .finite sign kept (exponent + (mantissa.log2 - 52 : Nat) + carry) positive ∧
      2 ^ 52 ≤ kept ∧ kept < 2 ^ 53 ∧
      kept * 2 ^ carry = (ExtendedMantissa.mk mantissa false false >>>
        (mantissa.log2 - 52)).roundedMantissa := by
  have range : -1074 ≤ exponent + (mantissa.log2 - 52 : Nat) := by omega
  have first := shiftToTargetExponent_of_long mantissa exponent lower value
  have mantissaBounds := kept_bounds mantissa lower
  have shifted := shift_mantissa ⟨mantissa, false, false⟩ (mantissa.log2 - 52)
  have bounds :=
    roundedMantissa_bounds (ExtendedMantissa.mk mantissa false false >>> (mantissa.log2 - 52))
  rw [shifted] at bounds
  dsimp only at bounds
  generalize rounds : (ExtendedMantissa.mk mantissa false false >>>
    (mantissa.log2 - 52)).roundedMantissa = rounded at bounds
  -- Rounding up may make a fifty-fourth bit, and then the mantissa is a power of two.
  by_cases fits : rounded < 2 ^ 53
  · have second := shiftToTargetExponent_of_fits rounded
      (exponent + (mantissa.log2 - 52 : Nat)) (by omega) fits range
    refine ⟨rounded, 0, by omega, ?_, by omega, fits, by rw [pow_zero, mul_one]⟩
    simp only [roundWithAccuracy, first, rounds, second]
    rw [dif_neg (by omega)]
    simp
  · have carried : rounded = 2 ^ 53 := by omega
    have second := shiftToTargetExponent_of_carry (exponent + (mantissa.log2 - 52 : Nat)) range
    refine ⟨2 ^ 52, 1, by norm_num, ?_, le_rfl, by norm_num, by omega⟩
    simp only [roundWithAccuracy, first, rounds, carried, second]
    rw [dif_neg (by norm_num)]
    rfl

/-- A long mantissa that loses no bits is kept without a carry. -/
theorem roundWithAccuracy_of_long (sign : Sign) (mantissa : Nat) (exponent : Int)
    (lower : 2 ^ 52 ≤ mantissa) (value : 0 ≤ (mantissa.log2 : Int) + exponent) :
    ∃ (kept : Nat) (carry : Int) (positive : 0 < kept),
      roundWithAccuracy Format.binary64 sign mantissa exponent .exact =
        .finite sign kept (exponent + (mantissa.log2 - 52 : Nat) + carry) positive ∧
      2 ^ 52 ≤ kept ∧ kept < 2 ^ 53 ∧ 0 ≤ carry ∧
      (2 ^ (mantissa.log2 - 52) ∣ mantissa →
        kept = mantissa / 2 ^ (mantissa.log2 - 52) ∧ carry = 0) := by
  obtain ⟨kept, carry, positive, rounds, keptLower, keptUpper, carried⟩ :=
    roundWithAccuracy_carry sign mantissa exponent lower value
  refine ⟨kept, carry, positive, rounds, keptLower, keptUpper, Int.natCast_nonneg carry,
    fun divides => ?_⟩
  rw [shift_of_dvd _ _ divides] at carried
  change kept * 2 ^ carry = mantissa / 2 ^ (mantissa.log2 - 52) at carried
  have mantissaBounds := kept_bounds mantissa lower
  obtain rfl : carry = 0 := by
    by_contra nonzero
    have double := Nat.mul_le_mul_left kept (Nat.pow_le_pow_right two_pos
      (Nat.one_le_iff_ne_zero.mpr nonzero))
    omega
  rw [pow_zero, mul_one] at carried
  exact ⟨carried, rfl⟩

/-- The leading bit of a mantissa bounds its value from both sides. -/
theorem value_bounds (mantissa : Nat) (exponent : Int) (positive : 0 < mantissa) :
    (2 : ℚ) ^ ((mantissa.log2 : Int) + exponent) ≤ mantissa * 2 ^ exponent ∧
      (mantissa : ℚ) * 2 ^ exponent < 2 ^ ((mantissa.log2 : Int) + 1 + exponent) := by
  obtain ⟨low, high⟩ := (Nat.log2_eq_iff (n := mantissa) positive.ne').mp rfl
  have scale : (0 : ℚ) < 2 ^ exponent := by positivity
  constructor
  · rw [zpow_add₀ (by norm_num), zpow_natCast]
    exact mul_le_mul_of_nonneg_right (by exact_mod_cast low) scale.le
  · rw [zpow_add₀ (by norm_num)]
    exact mul_lt_mul_of_pos_right (by exact_mod_cast high) scale

/-- The leading bit of a whole number above zero does not stand behind the point. -/
theorem leading_nonneg (mantissa whole : Nat) (exponent : Int) (nonzero : 0 < mantissa)
    (positive : 0 < whole) (value : (mantissa : ℚ) * 2 ^ exponent = whole) :
    0 ≤ (mantissa.log2 : Int) + exponent := by
  have above : (1 : ℚ) < 2 ^ ((mantissa.log2 : Int) + 1 + exponent) :=
    lt_of_le_of_lt (by rw [value]; exact_mod_cast positive)
      (value_bounds mantissa exponent nonzero).2
  rw [one_lt_zpow_iff_right₀ (by norm_num)] at above
  omega

/-- A mantissa with a negative exponent is a shifted whole number. -/
theorem mantissa_of_value (mantissa whole : Nat) (exponent : Int) (negative : exponent ≤ 0)
    (value : (mantissa : ℚ) * 2 ^ exponent = whole) :
    mantissa = whole * 2 ^ (-exponent).toNat := by
  have amount : ((-exponent).toNat : Int) = -exponent := Int.toNat_of_nonneg (by omega)
  have scaled : (mantissa : ℚ) = whole * 2 ^ (-exponent).toNat := by
    rw [← value, ← zpow_natCast, amount, mul_assoc, ← zpow_add₀ (by norm_num)]
    simp
  exact_mod_cast scaled

/-- A mantissa with a positive exponent has a whole value. -/
theorem exists_whole (mantissa : Nat) (exponent : Int) (positive : 0 < mantissa)
    (range : 0 ≤ exponent) :
    ∃ whole : Nat, 0 < whole ∧ (mantissa : ℚ) * 2 ^ exponent = whole := by
  refine ⟨mantissa * 2 ^ exponent.toNat, by positivity, ?_⟩
  conv_lhs => rw [← Int.toNat_of_nonneg range, zpow_natCast]
  push_cast
  rfl

/-- A whole number has been rounded to fifty-three bits. The result is whole again, and it is the
number itself when that lies below `2 ^ 53`. -/
def IsRounded (sign : Sign) (whole : Nat) (unpacked : UnpackedFloat) : Prop :=
  ∃ (kept rounded : Nat) (scale : Int) (nonzero : 0 < kept),
    unpacked = .finite sign kept scale nonzero ∧ 2 ^ 52 ≤ kept ∧ kept < 2 ^ 53 ∧ -52 ≤ scale ∧
      0 < rounded ∧ (kept : ℚ) * 2 ^ scale = rounded ∧
      (whole < 2 ^ 53 → rounded = whole ∧ scale ≤ 0)

/-- Rounding keeps a whole number whole, and below `2 ^ 53` it keeps it as it is. -/
theorem roundWithAccuracy_whole (sign : Sign) (mantissa whole : Nat) (exponent : Int)
    (lower : 2 ^ 52 ≤ mantissa) (positive : 0 < whole)
    (value : (mantissa : ℚ) * 2 ^ exponent = whole) :
    IsRounded sign whole (roundWithAccuracy Format.binary64 sign mantissa exponent .exact) := by
  obtain ⟨low, high⟩ := value_bounds mantissa exponent (by omega)
  rw [value] at low high
  have long : 52 ≤ mantissa.log2 := (Nat.le_log2 (by omega)).mpr lower
  have atLeastOne := leading_nonneg mantissa whole exponent (by omega) positive value
  obtain ⟨kept, carry, nonzero, rounds, keptLower, keptUpper, carries, unrounded⟩ :=
    roundWithAccuracy_of_long sign mantissa exponent lower atLeastOne
  by_cases small : whole < 2 ^ 53
  · have below : (mantissa.log2 : Int) + exponent < 53 := by
      have bound : (2 : ℚ) ^ ((mantissa.log2 : Int) + exponent) < 2 ^ (53 : Int) :=
        lt_of_le_of_lt low (by exact_mod_cast small)
      exact (zpow_lt_zpow_iff_right₀ (by norm_num)).mp bound
    have shifted := mantissa_of_value mantissa whole exponent (by omega) value
    have divides : 2 ^ (mantissa.log2 - 52) ∣ mantissa := by
      conv_rhs => rw [shifted]
      exact dvd_mul_of_dvd_right (pow_dvd_pow 2 (by omega)) whole
    obtain ⟨same, rfl⟩ := unrounded divides
    have product : (kept : ℚ) * 2 ^ (mantissa.log2 - 52) = mantissa := by
      rw [same]
      exact_mod_cast Nat.div_mul_cancel divides
    refine ⟨kept, whole, _, nonzero, rounds, keptLower, keptUpper, by omega, positive, ?_,
      fun _ => ⟨rfl, by omega⟩⟩
    rw [← value, ← product, add_zero, zpow_add₀ (by norm_num), zpow_natCast]
    ring
  · have above : (53 : Int) < (mantissa.log2 : Int) + 1 + exponent := by
      have bound : (2 : ℚ) ^ (53 : Int) < 2 ^ ((mantissa.log2 : Int) + 1 + exponent) :=
        lt_of_le_of_lt (by exact_mod_cast Nat.le_of_not_lt small) high
      exact (zpow_lt_zpow_iff_right₀ (by norm_num)).mp bound
    obtain ⟨rounded, roundedPositive, roundedValue⟩ := exists_whole kept
      (exponent + (mantissa.log2 - 52 : Nat) + carry) nonzero (by omega)
    exact ⟨kept, rounded, _, nonzero, rounds, keptLower, keptUpper, by omega, roundedPositive,
      roundedValue, fun contrary => absurd contrary small⟩

/-- An unpacked double is what rounding makes of a long mantissa that stands for a whole number. -/
def Rounds (sign : Sign) (whole : Nat) (unpacked : UnpackedFloat) : Prop :=
  ∃ (mantissa : Nat) (exponent : Int), 2 ^ 52 ≤ mantissa ∧ (mantissa : ℚ) * 2 ^ exponent = whole ∧
    unpacked = roundWithAccuracy Format.binary64 sign mantissa exponent .exact

theorem Rounds.isRounded {sign : Sign} {whole : Nat} {unpacked : UnpackedFloat}
    (rounds : Rounds sign whole unpacked) (positive : 0 < whole) :
    IsRounded sign whole unpacked := by
  obtain ⟨mantissa, exponent, lower, value, rfl⟩ := rounds
  exact roundWithAccuracy_whole sign mantissa whole exponent lower positive value

/-- A short mantissa is first made long, which does not change its value. -/
theorem round_rounds (sign : Sign) (mantissa whole : Nat) (exponent : Int) (positive : 0 < whole)
    (value : (mantissa : ℚ) * 2 ^ exponent = whole) :
    Rounds sign whole (UnpackedFloat.round Format.binary64 sign mantissa exponent) := by
  have mantissaPositive : 0 < mantissa := by
    rcases Nat.eq_zero_or_pos mantissa with rfl | nonzero
    · rw [Nat.cast_zero, zero_mul] at value
      exact absurd (by exact_mod_cast value.symm) positive.ne'
    · exact nonzero
  have atLeastOne := leading_nonneg mantissa whole exponent mantissaPositive positive value
  have amount : (exponent - Format.binary64.targetExponent
      (totalExponent mantissa exponent)).toNat = 52 - mantissa.log2 := by
    simp only [Format.targetExponent, totalExponent, Format.mantissaBits, Format.minExponent]
    omega
  have lower : 2 ^ 52 ≤ mantissa * 2 ^ (52 - mantissa.log2) := by
    have leading := Nat.log2_self_le mantissaPositive.ne'
    calc
      2 ^ 52 ≤ 2 ^ (mantissa.log2 + (52 - mantissa.log2)) :=
        Nat.pow_le_pow_right (by norm_num) (by omega)
      _ = 2 ^ mantissa.log2 * 2 ^ (52 - mantissa.log2) := Nat.pow_add _ _ _
      _ ≤ mantissa * 2 ^ (52 - mantissa.log2) := Nat.mul_le_mul_right _ leading
  have shifted : ((mantissa * 2 ^ (52 - mantissa.log2) : Nat) : ℚ) *
      2 ^ (exponent - (52 - mantissa.log2 : Nat)) = whole := by
    rw [← value, zpow_sub₀ (by norm_num), zpow_natCast]
    push_cast
    field_simp
  simp only [UnpackedFloat.round, decreaseExponent, amount, Nat.shiftLeft_eq]
  exact ⟨_, _, lower, shifted, rfl⟩

/-- Normalizing a positive whole number rounds it. -/
theorem normalize_rounds (mantissa : Int) (whole : Nat) (exponent : Int) (zeroSign : Sign)
    (positive : 0 < whole) (value : (mantissa : ℚ) * 2 ^ exponent = whole) :
    Rounds .positive whole
      (UnpackedFloat.normalize Format.binary64 mantissa exponent zeroSign) := by
  have mantissaPositive : 0 < mantissa := by
    have product : (0 : ℚ) < mantissa * 2 ^ exponent := by rw [value]; exact_mod_cast positive
    exact_mod_cast pos_of_mul_pos_left product (by positivity)
  have order : compare mantissa 0 = .gt := compare_gt_iff_gt.mpr mantissaPositive
  simp only [UnpackedFloat.normalize, order]
  apply round_rounds .positive mantissa.toNat whole exponent positive
  rw [← value]
  congr 1
  exact_mod_cast Int.toNat_of_nonneg mantissaPositive.le

end Reduct.Rounding
