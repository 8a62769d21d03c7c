import Mathlib.Tactic
import Reduct.Proofs.ExactInteger

namespace Reduct.Rounding

open Float.Model Float.Model.UnpackedFloat

/-- A number half way between two multiples of a power of two, of which the lower one is even. -/
def IsLowerTie (number count : Nat) : Prop :=
  2 * (number % 2 ^ count) = 2 ^ count ∧ number / 2 ^ count % 2 = 0

/-- A quotient by a power of two, rounded to the nearest integer, from half way to the even one. -/
def halfEven (number count : Nat) : Nat :=
  if 2 * (number % 2 ^ count) < 2 ^ count ∨
      2 * (number % 2 ^ count) = 2 ^ count ∧ number / 2 ^ count % 2 = 0 then number / 2 ^ count
  else number / 2 ^ count + 1

theorem le_halfEven (number count : Nat) : number / 2 ^ count ≤ halfEven number count := by
  rw [halfEven]
  split_ifs <;> omega

theorem halfEven_le (number count : Nat) : halfEven number count ≤ number / 2 ^ count + 1 := by
  rw [halfEven]
  split_ifs <;> omega

/-- Nothing is rounded when the bits that are dropped are zero. -/
theorem halfEven_of_dvd (number count : Nat) (divides : 2 ^ count ∣ number) :
    halfEven number count = number / 2 ^ count := by
  have rest : number % 2 ^ count = 0 := Nat.mod_eq_zero_of_dvd divides
  rw [halfEven, rest, if_pos (.inl (by positivity))]

/-- More bits behind a number leave its rounding as it is, unless they break a tie. -/
theorem halfEven_append (number count tail extra : Nat) (below : tail < 2 ^ extra)
    (shifted : 0 < count) :
    halfEven (number * 2 ^ extra + tail) (count + extra) = halfEven number count ↔
      ¬ (IsLowerTie number count ∧ tail ≠ 0) := by
  have scale : 2 ^ (count + extra) = 2 ^ extra * 2 ^ count := by rw [Nat.add_comm, Nat.pow_add]
  have last : (number * 2 ^ extra + tail) % 2 ^ extra = tail := by
    rw [Nat.mul_comm, Nat.mul_add_mod, Nat.mod_eq_of_lt below]
  have first : (number * 2 ^ extra + tail) / 2 ^ extra = number := by
    rw [Nat.mul_comm, Nat.mul_add_div (Nat.two_pow_pos extra), Nat.div_eq_of_lt below,
      Nat.add_zero]
  have quotient : (number * 2 ^ extra + tail) / 2 ^ (count + extra) = number / 2 ^ count := by
    rw [scale, ← Nat.div_div_eq_div_mul, first]
  have rest : (number * 2 ^ extra + tail) % 2 ^ (count + extra) =
      tail + 2 ^ extra * (number % 2 ^ count) := by
    rw [scale, Nat.mod_mul, last, first]
  rw [halfEven, halfEven, IsLowerTie, quotient, rest, scale]
  -- The bits that are dropped are compared with one half, and only equality sees the tail.
  rcases Nat.lt_trichotomy (2 * (number % 2 ^ count)) (2 ^ count) with less | half | more
  · have bound : 2 * (tail + 2 ^ extra * (number % 2 ^ count)) < 2 ^ extra * 2 ^ count := by
      have even : 2 ∣ 2 ^ count := dvd_pow_self 2 shifted.ne'
      have room : 2 * (number % 2 ^ count) + 2 ≤ 2 ^ count := by omega
      have scaled := Nat.mul_le_mul_left (2 ^ extra) room
      rw [Nat.mul_add, Nat.mul_left_comm] at scaled
      omega
    rw [if_pos (.inl bound), if_pos (.inl less)]
    omega
  · have bound : 2 * (2 ^ extra * (number % 2 ^ count)) = 2 ^ extra * 2 ^ count := by
      rw [Nat.mul_left_comm, half]
    split_ifs <;> omega
  · have bound := Nat.mul_lt_mul_of_pos_left more (Nat.two_pow_pos extra)
    rw [Nat.mul_left_comm] at bound
    split_ifs <;> omega

/-- The round bit is the last bit that is shifted out, and the sticky bit stands for the others. -/
theorem shift_succ (mantissa count : Nat) :
    ExtendedMantissa.mk mantissa false false >>> (count + 1) =
      ⟨mantissa / 2 ^ (count + 1), mantissa / 2 ^ count % 2 != 0, mantissa % 2 ^ count != 0⟩ := by
  induction count with
  | zero => simp [HShiftRight.hShiftRight, Nat.repeat, ExtendedMantissa.shiftRightOne, Nat.mod_one]
  | succ count inductionHypothesis =>
      have sticky : (mantissa / 2 ^ count % 2 != 0 || mantissa % 2 ^ count != 0) =
          (mantissa % 2 ^ (count + 1) != 0) := by
        have scale := Nat.two_pow_pos count
        rw [Nat.mod_pow_succ, Bool.eq_iff_iff]
        simp only [Bool.or_eq_true, bne_iff_ne, ne_eq, Nat.add_eq_zero_iff, Nat.mul_eq_zero]
        omega
      change (ExtendedMantissa.mk mantissa false false >>> (count + 1)).shiftRightOne = _
      rw [inductionHypothesis, ExtendedMantissa.shiftRightOne, ← sticky, Nat.div_div_eq_div_mul,
        ← Nat.pow_succ]

/-- The two residual bits round a shifted mantissa to the nearest integer. -/
theorem roundedMantissa_shift (mantissa count : Nat) :
    (ExtendedMantissa.mk mantissa false false >>> count).roundedMantissa =
      halfEven mantissa count := by
  cases count with
  | zero =>
      rw [halfEven_of_dvd mantissa 0 (one_dvd mantissa), pow_zero, Nat.div_one]
      rfl
  | succ count =>
      have scale : 2 ^ (count + 1) = 2 * 2 ^ count := Nat.pow_succ'
      have below := Nat.mod_lt mantissa (Nat.two_pow_pos count)
      rw [shift_succ, halfEven, Nat.mod_pow_succ, scale]
      generalize mantissa / (2 * 2 ^ count) = kept
      generalize round : (mantissa / 2 ^ count % 2 != 0) = roundBit
      generalize sticky : (mantissa % 2 ^ count != 0) = stickyBit
      cases roundBit with
      | false =>
          rw [bne_eq_false_iff_eq] at round
          rw [round, Nat.mul_zero, Nat.add_zero, if_pos (.inl (by omega))]
          cases stickyBit <;> rfl
      | true =>
          have last : mantissa / 2 ^ count % 2 = 1 := by
            rw [bne_iff_ne] at round
            omega
          rw [last, Nat.mul_one]
          cases stickyBit with
          | false =>
              rw [bne_eq_false_iff_eq] at sticky
              change kept + kept % 2 = _
              split_ifs <;> omega
          | true =>
              rw [bne_iff_ne] at sticky
              rw [if_neg (by omega)]
              rfl

/-- The number of bits that a double has no room for. -/
def excess (whole : Nat) : Nat :=
  whole.log2 - 52

/-- The whole number of the double that is nearest to a whole number. -/
def nearest (whole : Nat) : Nat :=
  halfEven whole (excess whole) * 2 ^ excess whole

theorem log2_append (whole tail extra : Nat) (positive : 0 < whole) (below : tail < 2 ^ extra) :
    (whole * 2 ^ extra + tail).log2 = whole.log2 + extra := by
  obtain ⟨low, high⟩ := (Nat.log2_eq_iff positive.ne').mp (Eq.refl whole.log2)
  have scale := Nat.two_pow_pos extra
  have lower := Nat.mul_le_mul_right (2 ^ extra) low
  have upper := Nat.mul_le_mul_right (2 ^ extra) (Nat.succ_le_of_lt high)
  rw [← Nat.pow_add] at lower upper
  rw [Nat.succ_mul, Nat.add_right_comm] at upper
  exact (Nat.log2_eq_iff (by omega)).mpr ⟨by omega, by omega⟩

theorem log2_mul (whole extra : Nat) (positive : 0 < whole) :
    (whole * 2 ^ extra).log2 = whole.log2 + extra :=
  log2_append whole 0 extra positive (Nat.two_pow_pos extra)

/-- A whole number with no bits beyond the fifty-third is a double. -/
theorem nearest_of_dvd (whole : Nat) (divides : 2 ^ excess whole ∣ whole) :
    nearest whole = whole := by
  rw [nearest, halfEven_of_dvd whole _ divides, Nat.div_mul_cancel divides]

theorem nearest_short (mantissa extra : Nat) (short : mantissa < 2 ^ 53) :
    nearest (mantissa * 2 ^ extra) = mantissa * 2 ^ extra := by
  rcases Nat.eq_zero_or_pos mantissa with rfl | positive
  · rw [Nat.zero_mul]
    exact nearest_of_dvd 0 (dvd_zero _)
  · have bits : mantissa.log2 < 53 := (Nat.log2_lt positive.ne').mpr short
    apply nearest_of_dvd
    apply dvd_mul_of_dvd_right
    apply pow_dvd_pow
    rw [excess, log2_mul mantissa extra positive]
    omega

theorem nearest_of_lt (whole : Nat) (small : whole < 2 ^ 53) : nearest whole = whole := by
  have short := nearest_short whole 0 small
  rwa [pow_zero, Nat.mul_one] at short

/-- Rounding at most doubles a whole number. -/
theorem nearest_le (whole : Nat) : nearest whole ≤ 2 * whole := by
  rcases Nat.eq_zero_or_pos whole with rfl | positive
  · rfl
  · have leading : 2 ^ excess whole ≤ whole :=
      (Nat.pow_le_pow_right two_pos (Nat.sub_le _ _)).trans (Nat.log2_self_le positive.ne')
    have kept := Nat.div_mul_le_self whole (2 ^ excess whole)
    have rounded := Nat.mul_le_mul_right (2 ^ excess whole) (halfEven_le whole (excess whole))
    rw [Nat.add_mul, Nat.one_mul] at rounded
    rw [nearest]
    omega

/-- More bits behind a long number leave its double as it is, unless they break a tie. -/
theorem nearest_append (whole tail extra : Nat) (long : 2 ^ 53 ≤ whole) (below : tail < 2 ^ extra) :
    nearest (whole * 2 ^ extra + tail) = nearest whole * 2 ^ extra ↔
      ¬ (IsLowerTie whole (excess whole) ∧ tail ≠ 0) := by
  have bits : 53 ≤ whole.log2 := (Nat.le_log2 (by omega)).mpr long
  have more : excess (whole * 2 ^ extra + tail) = excess whole + extra := by
    rw [excess, excess, log2_append whole tail extra (by omega) below]
    omega
  have scale := Nat.two_pow_pos (excess whole + extra)
  rw [← halfEven_append whole (excess whole) tail extra below (by rw [excess]; omega),
    nearest, nearest, more, Nat.mul_assoc, ← Nat.pow_add, Nat.mul_left_inj scale.ne']

/-- Rounding goes through a power of two. -/
theorem nearest_mul (whole extra : Nat) :
    nearest (whole * 2 ^ extra) = nearest whole * 2 ^ extra := by
  by_cases small : whole < 2 ^ 53
  · rw [nearest_short whole extra small, nearest_of_lt whole small]
  · exact (nearest_append whole 0 extra (Nat.le_of_not_lt small) (Nat.two_pow_pos extra)).mpr
      fun both => both.2 rfl

/-- A double from `2 ^ 53` on. -/
def IsLong (whole : Nat) : Prop :=
  ∃ mantissa extra : Nat, 2 ^ 52 ≤ mantissa ∧ mantissa < 2 ^ 53 ∧ 0 < extra ∧
    whole = mantissa * 2 ^ extra

/-- The bits behind a long double are lost. -/
theorem IsLong.nearest_append {whole : Nat} (long : IsLong whole) (tail extra : Nat)
    (below : tail < 2 ^ extra) : nearest (whole * 2 ^ extra + tail) = whole * 2 ^ extra := by
  obtain ⟨mantissa, scale, lower, upper, positive, rfl⟩ := long
  have bits : mantissa.log2 = 52 := (Nat.log2_eq_iff (by omega)).mpr ⟨lower, upper⟩
  have dropped : excess (mantissa * 2 ^ scale) = scale := by
    rw [excess, log2_mul mantissa scale (by omega), bits]
    omega
  have far : 2 ^ 53 ≤ mantissa * 2 ^ scale :=
    Nat.mul_le_mul lower (Nat.pow_le_pow_right two_pos positive)
  rw [(Rounding.nearest_append _ tail extra far below).mpr, nearest_short mantissa scale upper]
  rintro ⟨⟨half, -⟩, -⟩
  rw [dropped, Nat.mul_mod_left, Nat.mul_zero] at half
  exact absurd half.symm (Nat.two_pow_pos scale).ne'

theorem IsLong.mul {whole : Nat} (long : IsLong whole) (extra : Nat) :
    IsLong (whole * 2 ^ extra) := by
  obtain ⟨mantissa, scale, lower, upper, positive, rfl⟩ := long
  exact ⟨mantissa, scale + extra, lower, upper, by omega, by rw [Nat.mul_assoc, Nat.pow_add]⟩

/-- The double nearest to a long number is long. -/
theorem isLong_nearest (whole : Nat) (long : 2 ^ 53 ≤ whole) : IsLong (nearest whole) := by
  have bits : 53 ≤ whole.log2 := (Nat.le_log2 (by omega)).mpr long
  obtain ⟨lower, upper⟩ := kept_bounds whole (by omega)
  have least := le_halfEven whole (excess whole)
  have most := halfEven_le whole (excess whole)
  rw [← excess] at lower upper
  have positive : 0 < excess whole := by
    rw [excess]
    omega
  by_cases fits : halfEven whole (excess whole) < 2 ^ 53
  · exact ⟨_, _, by omega, fits, positive, rfl⟩
  · have carried : halfEven whole (excess whole) = 2 ^ 52 * 2 := by omega
    exact ⟨2 ^ 52, excess whole + 1, le_rfl, by norm_num, by omega,
      by rw [nearest, carried, Nat.mul_assoc, ← Nat.pow_succ']⟩

/-- The double nearest to a mantissa is, at its scale, the one nearest to its value. -/
theorem nearest_value (mantissa whole : Nat) (exponent : Int)
    (value : (mantissa : ℚ) * 2 ^ exponent = whole) :
    (nearest mantissa : ℚ) * 2 ^ exponent = nearest whole := by
  rcases le_total 0 exponent with nonnegative | nonpositive
  · obtain ⟨extra, rfl⟩ := Int.eq_ofNat_of_zero_le nonnegative
    rw [zpow_natCast] at value ⊢
    obtain rfl : mantissa * 2 ^ extra = whole := by exact_mod_cast value
    rw [nearest_mul]
    push_cast
    rfl
  · have shifted := mantissa_of_value mantissa whole exponent nonpositive value
    have amount : ((-exponent).toNat : Int) = -exponent := Int.toNat_of_nonneg (by omega)
    rw [shifted, nearest_mul]
    push_cast
    rw [mul_assoc, ← zpow_natCast, amount, ← zpow_add₀ (by norm_num), neg_add_cancel, zpow_zero,
      mul_one]

/-- A whole number has been rounded to the double that is nearest to it. -/
def IsNearest (sign : Sign) (whole : Nat) (unpacked : UnpackedFloat) : Prop :=
  ∃ (kept : Nat) (scale : Int) (nonzero : 0 < kept),
    unpacked = .finite sign kept scale nonzero ∧ 2 ^ 52 ≤ kept ∧ kept < 2 ^ 53 ∧ -52 ≤ scale ∧
      (kept : ℚ) * 2 ^ scale = nearest whole

theorem Rounds.isNearest {sign : Sign} {whole : Nat} {unpacked : UnpackedFloat}
    (rounds : Rounds sign whole unpacked) (positive : 0 < whole) :
    IsNearest sign whole unpacked := by
  obtain ⟨mantissa, exponent, lower, value, rfl⟩ := rounds
  have atLeastOne := leading_nonneg mantissa whole exponent (by omega) positive value
  obtain ⟨kept, carry, nonzero, same, keptLower, keptUpper, carried⟩ :=
    roundWithAccuracy_carry sign mantissa exponent lower atLeastOne
  rw [roundedMantissa_shift, ← excess] at carried
  rw [← excess] at same
  have long : 52 ≤ mantissa.log2 := (Nat.le_log2 (by omega)).mpr lower
  have length : (excess mantissa : Int) = mantissa.log2 - 52 := by
    rw [excess]
    omega
  refine ⟨kept, _, nonzero, same, keptLower, keptUpper, by omega, ?_⟩
  rw [← nearest_value mantissa whole exponent value, nearest, ← carried, zpow_add₀ (by norm_num),
    zpow_add₀ (by norm_num), zpow_natCast, zpow_natCast]
  push_cast
  ring

end Reduct.Rounding

namespace Reduct.Number

open Float.Model Float.Model.UnpackedFloat Rounding Packing

/-- A double holds a count, and zero without a sign. -/
def IsCount (value : Float) (count : Nat) : Prop :=
  IsWhole value.toModel.unpack count ∧ (count = 0 → value.toModel.unpack = .zero .positive)

theorem isCount_zero_iff (value : Float) :
    IsCount value 0 ↔ value.toModel.unpack = .zero .positive := by
  constructor
  · rintro ⟨-, unsigned⟩
    exact unsigned rfl
  · intro unpacks
    rw [IsCount, unpacks]
    exact ⟨rfl, fun _ => rfl⟩

theorem isCount_congr {left right : Float} (same : left.toModel.unpack = right.toModel.unpack)
    (count : Nat) : IsCount left count ↔ IsCount right count := by
  rw [IsCount, IsCount, same]

theorem IsCount.integer? {value : Float} {count : Nat} (holds : IsCount value count) :
    Number.integer? value = some (count : Int) :=
  (integer?_eq_some_iff value count).mpr holds.1

/-- A count above zero has a mantissa of fifty-three bits. -/
theorem IsCount.finite {value : Float} {count : Nat} (holds : IsCount value count)
    (positive : 0 < count) :
    ∃ (mantissa : Nat) (exponent : Int) (nonzero : 0 < mantissa),
      value.toModel.unpack = .finite .positive mantissa exponent nonzero ∧ 2 ^ 52 ≤ mantissa ∧
        mantissa < 2 ^ 53 ∧ (mantissa : ℚ) * 2 ^ exponent = count := by
  obtain ⟨mantissa, exponent, nonzero, unpacks, lower, value⟩ :=
    finite_of_integer? value .positive count positive holds.integer?
  obtain ⟨upper, -⟩ := unpack_finite_bounds _ _ _ _ _ unpacks
  exact ⟨mantissa, exponent, nonzero, unpacks, lower, upper, value⟩

/-- Two doubles that hold counts are the same when the counts are. -/
theorem IsCount.eq_iff {left right : Float} {leftCount rightCount : Nat}
    (leftHolds : IsCount left leftCount) (rightHolds : IsCount right rightCount) :
    left = right ↔ leftCount = rightCount := by
  constructor
  · rintro rfl
    have same := leftHolds.integer?.symm.trans rightHolds.integer?
    exact_mod_cast Option.some_inj.mp same
  · rintro rfl
    -- Two doubles hold zero, so only the sign tells that they are the same.
    rcases Nat.eq_zero_or_pos leftCount with rfl | positive
    · rw [isCount_zero_iff] at leftHolds rightHolds
      apply eq_of_ofFloat? left right ⟨false, 0, -1074⟩
      · rw [ofFloat?_eq, leftHolds, parts?]
        rfl
      · rw [ofFloat?_eq, rightHolds, parts?]
        rfl
    · exact eq_of_integer? left right leftCount (by omega) leftHolds.integer? rightHolds.integer?

/-- A count that a double holds is its own nearest double. -/
theorem IsCount.nearest {value : Float} {count : Nat} (holds : IsCount value count) :
    Rounding.nearest count = count := by
  by_cases small : count < 2 ^ 53
  · exact nearest_of_lt count small
  · obtain ⟨mantissa, exponent, nonzero, -, lower, upper, same⟩ := holds.finite (by omega)
    have above : ¬ exponent ≤ 0 := by
      rwa [← lt_two_pow_iff mantissa count exponent lower upper same]
    obtain ⟨extra, rfl⟩ := Int.eq_ofNat_of_zero_le (Int.le_of_lt (Int.not_le.mp above))
    rw [zpow_natCast] at same
    obtain rfl : mantissa * 2 ^ extra = count := by exact_mod_cast same
    exact nearest_short mantissa extra upper

/-- A double is the nearest one to a whole number, or infinite because that number is too large. -/
def IsNear (value : Float) (whole : Nat) : Prop :=
  (value.toModel.unpack = .infinity .positive ∧ 2 ^ 200 ≤ whole) ∨
    IsCount value (Rounding.nearest whole)

theorem IsNear.isCount {value : Float} {whole : Nat} (near : IsNear value whole)
    (small : whole < 2 ^ 200) : IsCount value (Rounding.nearest whole) := by
  rcases near with ⟨-, large⟩ | holds
  · exact absurd small (Nat.not_lt.mpr large)
  · exact holds

/-- A rounded number is packed as the double nearest to it. -/
theorem isNear_of_rounds {value : Float} {whole : Nat} {unpacked : UnpackedFloat}
    (rounds : Rounds .positive whole unpacked) (positive : 0 < whole)
    (same : value.toModel.unpack = (Float.Model.pack unpacked).unpack) : IsNear value whole := by
  obtain ⟨kept, scale, nonzero, rfl, lower, upper, low, holds⟩ := rounds.isNearest positive
  rw [unpack_pack_normal .positive kept scale nonzero lower upper (by omega)] at same
  have above : (0 : ℚ) < kept * 2 ^ scale := by positivity
  by_cases fits : scale ≤ 971
  · rw [if_pos fits] at same
    right
    rw [IsCount, same]
    constructor
    · rw [IsWhole, apply_value, holds]
      rfl
    · intro zero
      rw [holds, zero] at above
      exact absurd above (lt_irrefl _)
  · rw [if_neg fits] at same
    refine Or.inl ⟨same, ?_⟩
    have mantissa : (2 : ℚ) ^ (52 : Int) ≤ kept := by exact_mod_cast lower
    have exponent : (2 : ℚ) ^ (149 : Int) ≤ 2 ^ scale :=
      zpow_le_zpow_right₀ (by norm_num) (by omega)
    have product := mul_le_mul mantissa exponent (by positivity) (by positivity)
    rw [← zpow_add₀ (by norm_num), holds] at product
    have large : 2 ^ (200 + 1) ≤ nearest whole := by exact_mod_cast product
    rw [Nat.pow_succ'] at large
    exact Nat.le_of_mul_le_mul_left (large.trans (nearest_le whole)) two_pos

/-- The product of two counts is rounded to the nearest double. -/
theorem IsCount.mul {left right : Float} {leftCount rightCount : Nat}
    (leftHolds : IsCount left leftCount) (rightHolds : IsCount right rightCount)
    (positive : 0 < rightCount) : IsNear (left * right) (leftCount * rightCount) := by
  have packs : (left * right).toModel.unpack = (Float.Model.pack (UnpackedFloat.mul
      Format.binary64 left.toModel.unpack right.toModel.unpack)).unpack := rfl
  obtain ⟨rightMantissa, rightExponent, rightNonzero, rightUnpacks, -, -, rightSame⟩ :=
    rightHolds.finite positive
  rcases Nat.eq_zero_or_pos leftCount with rfl | leftPositive
  · right
    rw [isCount_zero_iff] at leftHolds
    rw [Nat.zero_mul, nearest_of_lt 0 (by norm_num), isCount_zero_iff, packs, leftHolds,
      rightUnpacks]
    exact unpack_pack_zero .positive
  · obtain ⟨leftMantissa, leftExponent, leftNonzero, leftUnpacks, lower, -, leftSame⟩ :=
      leftHolds.finite leftPositive
    apply isNear_of_rounds _ (Nat.mul_pos leftPositive positive) packs
    rw [leftUnpacks, rightUnpacks]
    exact product_rounds .positive .positive leftMantissa rightMantissa leftExponent rightExponent
      leftCount rightCount leftNonzero rightNonzero lower leftSame rightSame

/-- The sum of two counts is rounded to the nearest double. -/
theorem IsCount.add {left right : Float} {leftCount rightCount : Nat}
    (leftHolds : IsCount left leftCount) (rightHolds : IsCount right rightCount) :
    IsNear (left + right) (leftCount + rightCount) := by
  have packs : (left + right).toModel.unpack = (Float.Model.pack (UnpackedFloat.add
      Format.binary64 left.toModel.unpack right.toModel.unpack)).unpack := rfl
  have leftPacks := unpack_pack_of_isWhole left.toModel leftCount leftHolds.1
  have rightPacks := unpack_pack_of_isWhole right.toModel rightCount rightHolds.1
  obtain ⟨same, zero⟩ | ⟨same, zero⟩ | ⟨mantissa, exponent, same, value⟩ :=
    add_of_isWhole _ _ leftCount rightCount leftHolds.1 rightHolds.1
  · obtain rfl : rightCount = 0 := by exact_mod_cast zero
    rw [same, leftPacks] at packs
    right
    rwa [Nat.add_zero, leftHolds.nearest, isCount_congr packs]
  · obtain rfl : leftCount = 0 := by exact_mod_cast zero
    rw [same, rightPacks] at packs
    right
    rwa [Nat.zero_add, rightHolds.nearest, isCount_congr packs]
  · rw [same] at packs
    replace value : (mantissa : ℚ) * 2 ^ exponent = (leftCount + rightCount : Nat) := by
      exact_mod_cast value
    rcases Nat.eq_zero_or_pos (leftCount + rightCount) with zero | positive
    · rw [zero, Nat.cast_zero, mul_eq_zero, or_iff_left (by positivity), Int.cast_eq_zero] at value
      right
      rw [zero, nearest_of_lt 0 (by norm_num), isCount_zero_iff, packs, value]
      exact unpack_pack_zero .positive
    · exact isNear_of_rounds (normalize_rounds mantissa _ exponent .positive positive value)
        positive packs

/-- A count becomes the nearest double. -/
theorem isNear_ofNat (count : Nat) : IsNear (Float.ofNat count) count := by
  rcases Nat.eq_zero_or_pos count with rfl | positive
  · right
    rw [nearest_of_lt 0 (by norm_num), isCount_zero_iff]
    rfl
  · obtain ⟨unpacked, rounds, same⟩ := exists_rounds_ofNat count positive
    exact isNear_of_rounds rounds positive same

end Reduct.Number
