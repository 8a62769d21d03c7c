import Reduct.Number.Binary
import Reduct.Proofs.Rounding

namespace Reduct.Packing

open Float.Model Float.Model.UnpackedFloat

@[simp] theorem unpack_pack_zero (sign : Sign) :
    (Float.Model.pack (.zero sign)).unpack = .zero sign := by
  cases sign <;> rfl

@[simp] theorem unpack_pack_infinity (sign : Sign) :
    (Float.Model.pack (.infinity sign)).unpack = .infinity sign := by
  cases sign <;> rfl

@[simp] theorem unpack_pack_notANumber :
    (Float.Model.pack .notANumber).unpack = .notANumber := rfl

/-- The implicit bit stands in front of the stored mantissa. -/
theorem implicit_append (mantissa : BitVec 52) :
    (1#1 ++ mantissa).toNat = 2 ^ 52 + mantissa.toNat := by
  rw [BitVec.toNat_append, ← Nat.shiftLeft_add_eq_or_of_lt mantissa.isLt]
  rfl

/-- A mantissa of fifty-three bits is read back unless its exponent is too large. -/
theorem unpack_pack_normal (sign : Sign) (mantissa : Nat) (exponent : Int)
    (positive : 0 < mantissa) (lower : 2 ^ 52 ≤ mantissa) (upper : mantissa < 2 ^ 53)
    (range : -1074 ≤ exponent) :
    (Float.Model.pack (.finite sign mantissa exponent positive)).unpack =
      if exponent ≤ 971 then .finite sign mantissa exponent positive else .infinity sign := by
  have length : mantissa.log2 = 52 := (Nat.log2_eq_iff (by omega)).mpr ⟨lower, upper⟩
  change UnpackedFloat.unpack Format.binary64 (UnpackedFloat.pack Format.binary64 _) = _
  by_cases fits : exponent ≤ 971
  · have stored : (BitVec.ofNat 11 (exponent + 1023 + 52).toNat).toNat =
        (exponent + 1075).toNat := by
      rw [BitVec.toNat_ofNat]
      omega
    have notSpecial : BitVec.ofNat 11 (exponent + 1023 + 52).toNat ≠ -1#11 := by
      intro equal
      have values := congrArg BitVec.toNat equal
      rw [stored] at values
      change _ = 2047 at values
      omega
    have notZero : BitVec.ofNat 11 (exponent + 1023 + 52).toNat ≠ 0#11 := by
      intro equal
      have values := congrArg BitVec.toNat equal
      rw [stored] at values
      change _ = 0 at values
      omega
    have whole : (1#1 ++ BitVec.ofNat 52 mantissa).toNat = mantissa := by
      rw [implicit_append, BitVec.toNat_ofNat]
      omega
    have packs : UnpackedFloat.pack Format.binary64 (.finite sign mantissa exponent positive) =
        packComponents Format.binary64 sign (BitVec.ofNat 11 (exponent + 1023 + 52).toNat)
          (BitVec.ofNat 52 mantissa) := by
      have inside : ¬ 2 ^ 11 ≤ (exponent + 1023 + 52).toNat + 1 := by omega
      simp only [UnpackedFloat.pack, length]
      exact if_neg inside
    rw [packs, if_pos fits]
    simp only [UnpackedFloat.unpack, unpackExponent_packComponents,
      unpackMantissa_packComponents, unpackSign_packComponents, Sign.ofBitVec_toBitVec]
    rw [if_neg notSpecial, if_neg notZero]
    simp only [whole, stored]
    congr 1
    change ((exponent + 1075).toNat : Int) - (1023 + 52) = exponent
    omega
  · have packs : UnpackedFloat.pack Format.binary64 (.finite sign mantissa exponent positive) =
        packedInfinity Format.binary64 sign := by
      have outside : 2 ^ 11 ≤ (exponent + 1023 + 52).toNat + 1 := by omega
      simp only [UnpackedFloat.pack]
      exact if_pos outside
    rw [packs, if_neg fits]
    cases sign <;> rfl

def IsPositive : UnpackedFloat → Prop
  | .infinity .positive => True
  | .finite .positive _ _ _ => True
  | _ => False

@[simp] theorem not_isPositive_notANumber : ¬ IsPositive .notANumber := id

@[simp] theorem not_isPositive_zero (sign : Sign) : ¬ IsPositive (.zero sign) := id

@[simp] theorem isPositive_infinity (sign : Sign) :
    IsPositive (.infinity sign) ↔ sign = .positive := by
  cases sign <;> simp [IsPositive]

@[simp] theorem isPositive_finite (sign : Sign) (mantissa : Nat) (exponent : Int)
    (positive : 0 < mantissa) :
    IsPositive (.finite sign mantissa exponent positive) ↔ sign = .positive := by
  cases sign <;> simp [IsPositive]

/-- The comparison with zero asks for the sign of a number that is not zero. -/
theorem zero_lt_iff (value : Float) : 0.0 < value ↔ IsPositive value.toModel.unpack := by
  have zero : (0.0 : Float).toModel.unpack = .zero .positive := rfl
  change decide ((0.0 : Float).toModel.unpack.lt value.toModel.unpack = true) = true ↔ _
  rw [zero, decide_eq_true_iff]
  rcases value.toModel.unpack with (_ | _) | _ | _ | ⟨_ | _, mantissa, exponent, positive⟩ <;>
    simp [UnpackedFloat.lt, UnpackedFloat.compare]

/-- Bits with a negative sign are not above zero. -/
theorem not_isPositive_unpack (bits : BitVec 64)
    (negative : @unpackSign Format.binary64 bits = 1#1) :
    ¬ IsPositive (UnpackedFloat.unpack Format.binary64 bits) := by
  have sign : Sign.ofBitVec (@unpackSign Format.binary64 bits) = .negative := by
    rw [negative]
    rfl
  simp only [UnpackedFloat.unpack, sign]
  split_ifs <;> simp

/-- Packing a negative number does not bring it above zero. -/
theorem not_isPositive_pack (mantissa : Nat) (exponent : Int) (positive : 0 < mantissa) :
    ¬ IsPositive (Float.Model.pack (.finite .negative mantissa exponent positive)).unpack := by
  apply not_isPositive_unpack
  change unpackSign (UnpackedFloat.pack Format.binary64 _) = 1#1
  simp only [UnpackedFloat.pack, packedInfinity]
  split_ifs <;> exact unpackSign_packComponents .negative _ _

/-- Rounding a negative number does not bring it above zero. -/
theorem not_isPositive_roundWithAccuracy (mantissa : Nat) (exponent : Int) (accuracy : Accuracy) :
    ¬ IsPositive (Float.Model.pack
      (roundWithAccuracy Format.binary64 .negative mantissa exponent accuracy)).unpack := by
  simp only [roundWithAccuracy]
  split_ifs
  · simp
  · exact not_isPositive_pack _ _ _

/-- Normalizing a number that is not above zero does not bring it there. -/
theorem not_isPositive_normalize (mantissa exponent : Int) (zeroSign : Sign)
    (nonpositive : mantissa ≤ 0) :
    ¬ IsPositive (Float.Model.pack
      (UnpackedFloat.normalize Format.binary64 mantissa exponent zeroSign)).unpack := by
  rcases nonpositive.lt_or_eq with negative | rfl
  · have order : compare mantissa 0 = .lt := compare_lt_iff_lt.mpr negative
    simp only [UnpackedFloat.normalize, order, UnpackedFloat.round]
    exact not_isPositive_roundWithAccuracy _ _ _
  · simp [UnpackedFloat.normalize]

/-- Two doubles that are not above zero have no sum above zero. -/
theorem not_zero_lt_add (left right : Float) (leftBelow : ¬ 0.0 < left)
    (rightBelow : ¬ 0.0 < right) : ¬ 0.0 < left + right := by
  rw [zero_lt_iff] at leftBelow rightBelow ⊢
  change ¬ IsPositive (Float.Model.pack
    (UnpackedFloat.add Format.binary64 left.toModel.unpack right.toModel.unpack)).unpack
  generalize left.toModel.unpack = first at leftBelow
  generalize right.toModel.unpack = second at rightBelow
  cases first with
  | notANumber => simp [UnpackedFloat.add]
  | infinity sign =>
      cases sign with
      | positive => simp at leftBelow
      | negative =>
          rcases second with _ | _ | _ | _ <;> simp only [UnpackedFloat.add]
          · split_ifs <;> simp
          all_goals simp
  | zero sign =>
      rcases second with (_ | _) | _ | _ | ⟨_ | _, mantissa, exponent, _⟩
      · simp [UnpackedFloat.add]
      · simp at rightBelow
      · simp [UnpackedFloat.add]
      · simp only [UnpackedFloat.add]
        split_ifs <;> simp
      · exact not_isPositive_pack _ _ _
      · simp at rightBelow
  | finite sign mantissa exponent positive =>
      cases sign with
      | positive => simp at leftBelow
      | negative =>
          rcases second with (_ | _) | _ | _ | ⟨_ | _, otherMantissa, otherExponent, _⟩
          · simp [UnpackedFloat.add]
          · simp at rightBelow
          · simp [UnpackedFloat.add]
          · exact not_isPositive_pack _ _ _
          · apply not_isPositive_normalize
            simp only [Sign.apply]
            have first := Int.natCast_nonneg
              (decreaseExponent mantissa exponent (min exponent otherExponent)).1
            have second := Int.natCast_nonneg
              (decreaseExponent otherMantissa otherExponent (min exponent otherExponent)).1
            linarith
          · simp at rightBelow

/-- A double that is not above zero has no product above zero with one that is. -/
theorem not_zero_lt_mul (left right : Float) (below : ¬ 0.0 < left) (above : 0.0 < right) :
    ¬ 0.0 < left * right := by
  rw [zero_lt_iff] at below above ⊢
  change ¬ IsPositive (Float.Model.pack
    (UnpackedFloat.mul Format.binary64 left.toModel.unpack right.toModel.unpack)).unpack
  generalize left.toModel.unpack = first at below
  generalize right.toModel.unpack = second at above
  rcases second with (_ | _) | _ | _ | ⟨_ | _, mantissa, exponent, nonzero⟩
  all_goals simp at above
  · rcases first with (_ | _) | _ | _ | ⟨_ | _, otherMantissa, otherExponent, _⟩
    all_goals simp [UnpackedFloat.mul] at below ⊢
  · rcases first with (_ | _) | _ | _ | ⟨_ | _, otherMantissa, otherExponent, _⟩
    · simp [UnpackedFloat.mul]
    · simp at below
    · simp [UnpackedFloat.mul]
    · simp [UnpackedFloat.mul]
    · exact not_isPositive_roundWithAccuracy _ _ _
    · simp at below

/-- A double at or below zero is not above it. -/
theorem not_zero_lt_of_le (value : Float) (below : value ≤ 0.0) : ¬ 0.0 < value := by
  have zero : (0.0 : Float).toModel.unpack = .zero .positive := rfl
  change decide (value.toModel.unpack.le (0.0 : Float).toModel.unpack = true) = true at below
  rw [zero, decide_eq_true_iff] at below
  rw [zero_lt_iff]
  intro positive
  generalize value.toModel.unpack = unpacked at below positive
  rcases unpacked with (_ | _) | _ | _ | ⟨_ | _, mantissa, exponent, nonzero⟩ <;>
    simp [UnpackedFloat.le, UnpackedFloat.compare] at below positive

/-- The negative of a double at or above zero is not above it. -/
theorem not_zero_lt_neg (value : Float) (above : 0.0 ≤ value) : ¬ 0.0 < -value := by
  have zero : (0.0 : Float).toModel.unpack = .zero .positive := rfl
  change decide ((0.0 : Float).toModel.unpack.le value.toModel.unpack = true) = true at above
  rw [zero, decide_eq_true_iff] at above
  rw [zero_lt_iff]
  change ¬ IsPositive (Float.Model.pack value.toModel.unpack.neg).unpack
  generalize value.toModel.unpack = unpacked at above
  rcases unpacked with (_ | _) | _ | _ | ⟨_ | _, mantissa, exponent, nonzero⟩
  · simp [UnpackedFloat.le, UnpackedFloat.compare] at above
  · simp [UnpackedFloat.neg]
  · simp [UnpackedFloat.neg]
  · simp [UnpackedFloat.neg]
  · simp [UnpackedFloat.le, UnpackedFloat.compare] at above
  · exact not_isPositive_pack mantissa exponent nonzero

theorem unpackMantissa_toNat (bits : BitVec 64) :
    (@unpackMantissa Format.binary64 bits).toNat = bits.toNat % 2 ^ 52 := by
  change (bits.extractLsb 51 0).toNat = _
  rw [BitVec.extractLsb_toNat]
  rfl

theorem unpackExponent_toNat (bits : BitVec 64) :
    (@unpackExponent Format.binary64 bits).toNat = bits.toNat / 2 ^ 52 % 2 ^ 11 := by
  change (bits.extractLsb 62 52).toNat = _
  rw [BitVec.extractLsb_toNat, Nat.shiftRight_eq_div_pow]

theorem unpackSign_toNat (bits : BitVec 64) :
    (@unpackSign Format.binary64 bits).toNat = bits.toNat / 2 ^ 63 := by
  have bound := bits.isLt
  change (bits.extractLsb 63 63).toNat = _
  rw [BitVec.extractLsb_toNat, Nat.shiftRight_eq_div_pow]
  omega

/-- The sign, the mantissa and the exponent of a finite double. -/
def parts? : UnpackedFloat → Option Number.Binary
  | .infinity _ => none
  | .notANumber => none
  | .zero sign => some ⟨sign == .negative, 0, -1074⟩
  | .finite sign mantissa exponent _ => some ⟨sign == .negative, mantissa, exponent⟩

/-- The sign bit of a word. -/
theorem ofBitVec_eq_negative (word : BitVec 64) :
    (Sign.ofBitVec (@unpackSign Format.binary64 word) == .negative) =
      (word.toNat / 2 ^ 63 == 1) := by
  rw [← unpackSign_toNat]
  generalize @unpackSign Format.binary64 word = bit
  revert bit
  decide

/-- The fields of a double are its unpacked parts. -/
theorem ofFloat?_eq (value : Float) :
    Number.Binary.ofFloat? value = parts? value.toModel.unpack := by
  change Number.Binary.ofFloat? value =
    parts? (UnpackedFloat.unpack Format.binary64 value.toModel.toBits.toBitVec)
  have bits : value.toBits.toNat = value.toModel.toBits.toBitVec.toNat := rfl
  simp only [Number.Binary.ofFloat?, bits, Nat.pow_eq]
  generalize value.toModel.toBits.toBitVec = word
  have special : @unpackExponent Format.binary64 word = -1#11 ↔
      word.toNat / 2 ^ 52 % 2 ^ 11 = 2 ^ 11 - 1 := by
    rw [← BitVec.toNat_inj, unpackExponent_toNat]
    rfl
  have tiny : @unpackExponent Format.binary64 word = 0#11 ↔
      word.toNat / 2 ^ 52 % 2 ^ 11 = 0 := by
    rw [← BitVec.toNat_inj, unpackExponent_toNat]
    rfl
  have nothing : @unpackMantissa Format.binary64 word = 0#52 ↔ word.toNat % 2 ^ 52 = 0 := by
    rw [← BitVec.toNat_inj, unpackMantissa_toNat]
    rfl
  have implicit := implicit_append (@unpackMantissa Format.binary64 word)
  rw [unpackMantissa_toNat] at implicit
  simp only [UnpackedFloat.unpack, special, tiny, nothing]
  by_cases isSpecial : word.toNat / 2 ^ 52 % 2 ^ 11 = 2 ^ 11 - 1
  · rw [if_pos isSpecial, if_pos isSpecial]
    split_ifs <;> rfl
  · rw [if_neg isSpecial, if_neg isSpecial]
    by_cases isTiny : word.toNat / 2 ^ 52 % 2 ^ 11 = 0
    · rw [if_pos isTiny, if_pos isTiny]
      split_ifs with isNothing
      · simp [parts?, ofBitVec_eq_negative]
        omega
      · simp [parts?, ofBitVec_eq_negative, unpackMantissa_toNat, unpackExponent_toNat,
          Format.exponentBias]
        omega
    · rw [if_neg isTiny, if_neg isTiny]
      simp [parts?, ofBitVec_eq_negative, implicit, unpackExponent_toNat, Format.exponentBias,
        Nat.add_comm]

/-- The mantissa and the exponent of a finite double lie in the range of the format. -/
theorem unpack_finite_bounds (model : Float.Model) (sign : Sign) (mantissa : Nat) (exponent : Int)
    (positive : 0 < mantissa) (unpacks : model.unpack = .finite sign mantissa exponent positive) :
    mantissa < 2 ^ 53 ∧ -1074 ≤ exponent ∧ exponent ≤ 971 ∧
      (2 ^ 52 ≤ mantissa ∨ exponent = -1074) := by
  change UnpackedFloat.unpack Format.binary64 model.toBits.toBitVec = _ at unpacks
  generalize model.toBits.toBitVec = word at unpacks
  have implicit := implicit_append (@unpackMantissa Format.binary64 word)
  have stored : (@unpackMantissa Format.binary64 word).toNat < 2 ^ 52 := BitVec.isLt _
  have biased : (@unpackExponent Format.binary64 word).toNat < 2 ^ 11 := BitVec.isLt _
  have special : @unpackExponent Format.binary64 word = -1#11 ↔
      (@unpackExponent Format.binary64 word).toNat = 2047 := by
    rw [← BitVec.toNat_inj]
    rfl
  have tiny : @unpackExponent Format.binary64 word = 0#11 ↔
      (@unpackExponent Format.binary64 word).toNat = 0 := by
    rw [← BitVec.toNat_inj]
    rfl
  have bias : (Format.binary64.exponentBias : Int) = 1023 := rfl
  simp only [UnpackedFloat.unpack, special, tiny, bias] at unpacks
  split_ifs at unpacks with isSpecial isInfinite isTiny isNothing
  · obtain ⟨-, rfl, rfl⟩ := UnpackedFloat.finite.inj unpacks
    omega
  · obtain ⟨-, rfl, rfl⟩ := UnpackedFloat.finite.inj unpacks
    omega

end Reduct.Packing
