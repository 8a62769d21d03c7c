import Mathlib.Tactic
import Reduct.Proofs.Packing

namespace Reduct.Number

open Float.Model Float.Model.UnpackedFloat Rounding Packing

/-- An unpacked double stands for a whole number. -/
def IsWhole : UnpackedFloat → Int → Prop
  | .zero _, units => units = 0
  | .finite sign mantissa exponent _, units =>
      ((sign.apply mantissa : Int) : ℚ) * 2 ^ exponent = units
  | _, _ => False

/-- The ratio of a binary number is its value. -/
theorem ratio_value (mantissa : Nat) (exponent : Int) :
    (mantissa : ℚ) * 2 ^ exponent * 2 ^ (-exponent).toNat = mantissa * 2 ^ exponent.toNat := by
  rw [mul_assoc, ← zpow_natCast, ← zpow_natCast, ← zpow_add₀ (by norm_num)]
  congr 2
  omega

/-- The sign of a whole number goes through the value. -/
theorem apply_value (sign : Sign) (mantissa : Nat) (exponent units : Int) :
    ((sign.apply mantissa : Int) : ℚ) * 2 ^ exponent = units ↔
      (mantissa : ℚ) * 2 ^ exponent = sign.apply units := by
  cases sign with
  | negative =>
      simp only [Sign.apply, Int.cast_neg, Int.cast_natCast, neg_mul]
      exact neg_eq_iff_eq_neg
  | positive => rfl

/-- The integer of a finite double is the whole number that it stands for. -/
theorem whole_iff (sign : Sign) (mantissa : Nat) (exponent units : Int) :
    (let binary : Binary := ⟨sign == .negative, mantissa, exponent⟩
      if binary.isWhole then some binary.truncate else none) = some units ↔
      ((sign.apply mantissa : Int) : ℚ) * 2 ^ exponent = units := by
  have value := ratio_value mantissa exponent
  have scale : (2 : ℚ) ^ (-exponent).toNat ≠ 0 := by positivity
  simp only [Binary.isWhole, Binary.truncate, Binary.ratio, Nat.pow_eq, beq_iff_eq]
  rw [apply_value]
  by_cases whole : mantissa * 2 ^ exponent.toNat % 2 ^ (-exponent).toNat = 0
  · rw [if_pos whole]
    obtain ⟨quotient, product⟩ := Nat.dvd_of_mod_eq_zero whole
    have cast : (mantissa : ℚ) * 2 ^ exponent.toNat = 2 ^ (-exponent).toNat * quotient := by
      exact_mod_cast product
    have same : (mantissa : ℚ) * 2 ^ exponent = quotient := by
      apply mul_right_cancel₀ scale
      rw [value, cast, mul_comm]
    have integral : (quotient : ℚ) = sign.apply units ↔ (quotient : Int) = sign.apply units := by
      exact_mod_cast Iff.rfl
    rw [product, Nat.mul_div_cancel_left _ (Nat.two_pow_pos _), same, Option.some_inj, integral]
    cases sign with
    | negative =>
        change -(quotient : Int) = units ↔ (quotient : Int) = -units
        omega
    | positive => rfl
  · rw [if_neg whole]
    refine ⟨fun impossible => by simp at impossible, fun equal => absurd ?_ whole⟩
    rw [equal] at value
    have product : sign.apply units * 2 ^ (-exponent).toNat =
        ((mantissa * 2 ^ exponent.toNat : Nat) : Int) := by exact_mod_cast value
    apply Nat.mod_eq_zero_of_dvd
    rw [← Int.natCast_dvd_natCast, ← product]
    push_cast
    exact dvd_mul_left _ _

/-- The exact integer of a double is the whole number that its parts stand for. -/
theorem integer?_eq_some_iff (value : Float) (units : Int) :
    integer? value = some units ↔ IsWhole value.toModel.unpack units := by
  simp only [integer?, ofFloat?_eq]
  rcases value.toModel.unpack with _ | _ | sign | ⟨sign, mantissa, exponent, positive⟩
  · simp [parts?, IsWhole]
  · simp [parts?, IsWhole]
  · have nothing : sign.apply ((0 : Nat) : Int) = 0 := by cases sign <;> rfl
    have whole := whole_iff sign 0 (-1074) units
    rw [nothing, Int.cast_zero, zero_mul] at whole
    refine whole.trans ?_
    rw [eq_comm]
    exact Int.cast_eq_zero
  · exact whole_iff sign mantissa exponent units

/-- A whole number is above zero as a double exactly when it is above zero. -/
theorem isPositive_iff (unpacked : UnpackedFloat) (units : Int) (whole : IsWhole unpacked units) :
    IsPositive unpacked ↔ 0 < units := by
  rcases unpacked with _ | _ | sign | ⟨sign, mantissa, exponent, positive⟩
  · exact absurd whole id
  · exact absurd whole id
  · obtain rfl : units = 0 := whole
    simp
  · have value := (apply_value sign mantissa exponent units).mp whole
    have above : (0 : ℚ) < mantissa * 2 ^ exponent := by positivity
    rw [value] at above
    have order : 0 < sign.apply units := by exact_mod_cast above
    rw [isPositive_finite]
    cases sign with
    | negative =>
        simp only [Sign.apply] at order
        simp only [reduceCtorEq, false_iff]
        omega
    | positive => simpa [Sign.apply] using order

/-- The comparison with zero is that of whole numbers. -/
theorem zero_lt_of_integer? (value : Float) (units : Int) (whole : integer? value = some units) :
    0.0 < value ↔ 0 < units := by
  rw [zero_lt_iff]
  exact isPositive_iff _ _ ((integer?_eq_some_iff value units).mp whole)

/-- A whole number other than zero has a mantissa of fifty-three bits. -/
theorem normal_of_isWhole (model : Float.Model) (sign : Sign) (mantissa : Nat)
    (exponent units : Int) (positive : 0 < mantissa)
    (unpacks : model.unpack = .finite sign mantissa exponent positive)
    (whole : IsWhole model.unpack units) :
    2 ^ 52 ≤ mantissa ∧ mantissa < 2 ^ 53 ∧ -1074 ≤ exponent ∧ exponent ≤ 971 := by
  obtain ⟨upper, low, high, normal⟩ :=
    unpack_finite_bounds model sign mantissa exponent positive unpacks
  refine ⟨?_, upper, low, high⟩
  rcases normal with lower | rfl
  · exact lower
  · rw [unpacks] at whole
    have value := (apply_value sign mantissa (-1074) units).mp whole
    have above : (0 : ℚ) < mantissa * 2 ^ (-1074 : Int) := by positivity
    have below : (mantissa : ℚ) * 2 ^ (-1074 : Int) < 1 := by
      have cast : (mantissa : ℚ) < 2 ^ (53 : Int) := by exact_mod_cast upper
      have scale : (0 : ℚ) < 2 ^ (-1074 : Int) := by positivity
      have bound : (2 : ℚ) ^ (53 + -1074 : Int) ≤ 2 ^ (0 : Int) :=
        zpow_le_zpow_right₀ (by norm_num) (by norm_num)
      rw [zpow_add₀ (by norm_num), zpow_zero] at bound
      exact lt_of_lt_of_le (mul_lt_mul_of_pos_right cast scale) bound
    rw [value] at above below
    have atLeast : 0 < sign.apply units := by exact_mod_cast above
    have atMost : sign.apply units < 1 := by exact_mod_cast below
    omega

/-- A whole number is packed as it is. -/
theorem unpack_pack_of_isWhole (model : Float.Model) (units : Int)
    (whole : IsWhole model.unpack units) :
    (Float.Model.pack model.unpack).unpack = model.unpack := by
  cases unpacks : model.unpack with
  | infinity sign => simp
  | notANumber => simp
  | zero sign => simp
  | finite sign mantissa exponent positive =>
      obtain ⟨lower, upper, low, high⟩ :=
        normal_of_isWhole model sign mantissa exponent units positive unpacks whole
      rw [unpack_pack_normal sign mantissa exponent positive lower upper low, if_pos high]

/-- A rounded number is packed as a whole number, unless it is too large for a double. -/
theorem packed_of_isRounded (sign : Sign) (whole : Nat) (unpacked : UnpackedFloat)
    (rounds : IsRounded sign whole unpacked) :
    (Float.Model.pack unpacked).unpack = .infinity sign ∨
      ∃ rounded : Nat, 0 < rounded ∧
        IsWhole (Float.Model.pack unpacked).unpack (sign.apply rounded) := by
  obtain ⟨kept, rounded, scale, nonzero, rfl, lower, upper, low, positive, value, -⟩ := rounds
  rw [unpack_pack_normal sign kept scale nonzero lower upper (by omega)]
  split_ifs
  · refine Or.inr ⟨rounded, positive, ?_⟩
    rw [IsWhole, apply_value, value]
    cases sign <;> simp [Sign.apply]
  · exact Or.inl rfl

/-- A number below `2 ^ 53` is packed as it is. -/
theorem packed_of_small (sign : Sign) (whole : Nat) (unpacked : UnpackedFloat)
    (rounds : IsRounded sign whole unpacked) (small : whole < 2 ^ 53) :
    IsWhole (Float.Model.pack unpacked).unpack (sign.apply whole) := by
  obtain ⟨kept, rounded, scale, nonzero, rfl, lower, upper, low, positive, value, same⟩ := rounds
  obtain ⟨rfl, high⟩ := same small
  rw [unpack_pack_normal sign kept scale nonzero lower upper (by omega), if_pos (by omega),
    IsWhole, apply_value, value]
  cases sign <;> simp [Sign.apply]

/-- A mantissa that is shifted to a lower exponent keeps its value. -/
theorem decreaseExponent_value (sign : Sign) (mantissa : Nat) (exponent target : Int)
    (lower : target ≤ exponent) :
    ((sign.apply (decreaseExponent mantissa exponent target).1 : Int) : ℚ) * 2 ^ target =
      ((sign.apply mantissa : Int) : ℚ) * 2 ^ exponent := by
  have amount : ((exponent - target).toNat : Int) + target = exponent := by omega
  have value : ((mantissa <<< (exponent - target).toNat : Nat) : ℚ) * 2 ^ target =
      mantissa * 2 ^ exponent := by
    rw [Nat.shiftLeft_eq, Nat.cast_mul, Nat.cast_pow, Nat.cast_ofNat, mul_assoc, ← zpow_natCast,
      ← zpow_add₀ (by norm_num), amount]
  cases sign with
  | negative =>
      simp only [decreaseExponent, Sign.apply, Int.cast_neg, Int.cast_natCast, neg_mul, value]
  | positive => simp only [decreaseExponent, Sign.apply, Int.cast_natCast, value]

/-- The sum of two whole numbers, brought to one exponent, is their sum. -/
theorem sum_value (leftSign rightSign : Sign) (leftMantissa rightMantissa : Nat)
    (leftExponent rightExponent leftUnits rightUnits : Int)
    (left : ((leftSign.apply leftMantissa : Int) : ℚ) * 2 ^ leftExponent = leftUnits)
    (right : ((rightSign.apply rightMantissa : Int) : ℚ) * 2 ^ rightExponent = rightUnits) :
    ((leftSign.apply (decreaseExponent leftMantissa leftExponent
        (min leftExponent rightExponent)).1 +
      rightSign.apply (decreaseExponent rightMantissa rightExponent
        (min leftExponent rightExponent)).1 : Int) : ℚ) * 2 ^ min leftExponent rightExponent =
      ((leftUnits + rightUnits : Int) : ℚ) := by
  push_cast
  rw [add_mul, decreaseExponent_value _ _ _ _ (min_le_left _ _),
    decreaseExponent_value _ _ _ _ (min_le_right _ _), left, right]

/-- A sum of whole numbers is one of them when the other is zero, and otherwise their exact sum is
brought into the format. -/
theorem add_of_isWhole (first second : UnpackedFloat) (firstUnits secondUnits : Int)
    (firstWhole : IsWhole first firstUnits) (secondWhole : IsWhole second secondUnits) :
    (UnpackedFloat.add Format.binary64 first second = first ∧ secondUnits = 0) ∨
      (UnpackedFloat.add Format.binary64 first second = second ∧ firstUnits = 0) ∨
      ∃ mantissa exponent : Int,
        UnpackedFloat.add Format.binary64 first second =
          UnpackedFloat.normalize Format.binary64 mantissa exponent .positive ∧
        (mantissa : ℚ) * 2 ^ exponent = ((firstUnits + secondUnits : Int) : ℚ) := by
  rcases second with _ | _ | secondSign | ⟨secondSign, secondMantissa, secondExponent, _⟩
  · exact absurd secondWhole id
  · exact absurd secondWhole id
  · obtain rfl : secondUnits = 0 := secondWhole
    rcases first with _ | _ | firstSign | ⟨firstSign, firstMantissa, firstExponent, _⟩
    · exact absurd firstWhole id
    · exact absurd firstWhole id
    · obtain rfl : firstUnits = 0 := firstWhole
      simp only [UnpackedFloat.add]
      split_ifs
      · exact Or.inl ⟨rfl, trivial⟩
      · exact Or.inr (Or.inr ⟨0, 0, rfl, by simp⟩)
    · exact Or.inl ⟨rfl, rfl⟩
  · rcases first with _ | _ | firstSign | ⟨firstSign, firstMantissa, firstExponent, _⟩
    · exact absurd firstWhole id
    · exact absurd firstWhole id
    · exact Or.inr (Or.inl ⟨rfl, firstWhole⟩)
    · exact Or.inr (Or.inr ⟨_, _, rfl, sum_value firstSign secondSign firstMantissa
        secondMantissa firstExponent secondExponent firstUnits secondUnits firstWhole secondWhole⟩)

/-- A sum of whole numbers is exact while it stays between zero and `2 ^ 53`. -/
theorem integer?_add (left right : Float) (leftUnits rightUnits : Int)
    (leftWhole : integer? left = some leftUnits) (rightWhole : integer? right = some rightUnits)
    (positive : 0 < leftUnits + rightUnits) (small : leftUnits + rightUnits < 2 ^ 53) :
    integer? (left + right) = some (leftUnits + rightUnits) := by
  rw [integer?_eq_some_iff] at leftWhole rightWhole ⊢
  change IsWhole (Float.Model.pack (UnpackedFloat.add Format.binary64 left.toModel.unpack
    right.toModel.unpack)).unpack _
  obtain ⟨same, rfl⟩ | ⟨same, rfl⟩ | ⟨mantissa, exponent, same, value⟩ :=
    add_of_isWhole _ _ leftUnits rightUnits leftWhole rightWhole
  · rwa [same, unpack_pack_of_isWhole _ _ leftWhole, add_zero]
  · rwa [same, unpack_pack_of_isWhole _ _ rightWhole, zero_add]
  · obtain ⟨total, sum⟩ : ∃ total : Nat, leftUnits + rightUnits = total :=
      ⟨(leftUnits + rightUnits).toNat, by omega⟩
    rw [sum, Int.cast_natCast] at value
    rw [sum] at small ⊢
    rw [same]
    exact packed_of_small .positive total _ ((normalize_rounds mantissa total exponent .positive
      (by omega) value).isRounded (by omega)) (by exact_mod_cast small)

/-- A sum of whole numbers that is not above zero is not above zero as a double either. -/
theorem not_zero_lt_add_of_integer? (left right : Float) (leftUnits rightUnits : Int)
    (leftWhole : integer? left = some leftUnits) (rightWhole : integer? right = some rightUnits)
    (nonpositive : leftUnits + rightUnits ≤ 0) : ¬ 0.0 < left + right := by
  rw [zero_lt_iff]
  rw [integer?_eq_some_iff] at leftWhole rightWhole
  change ¬ IsPositive (Float.Model.pack (UnpackedFloat.add Format.binary64 left.toModel.unpack
    right.toModel.unpack)).unpack
  obtain ⟨same, rfl⟩ | ⟨same, rfl⟩ | ⟨mantissa, exponent, same, value⟩ :=
    add_of_isWhole _ _ leftUnits rightUnits leftWhole rightWhole
  · rw [same, unpack_pack_of_isWhole _ _ leftWhole, isPositive_iff _ _ leftWhole]
    omega
  · rw [same, unpack_pack_of_isWhole _ _ rightWhole, isPositive_iff _ _ rightWhole]
    omega
  · rw [same]
    apply not_isPositive_normalize
    have product : (mantissa : ℚ) * 2 ^ exponent ≤ 0 := by
      rw [value]
      exact_mod_cast nonpositive
    have scale : (0 : ℚ) < 2 ^ exponent := by positivity
    exact_mod_cast nonpos_of_mul_nonpos_left product scale

/-- Negation of a whole number is exact. -/
theorem integer?_neg (value : Float) (units : Int) (whole : integer? value = some units) :
    integer? (-value) = some (-units) := by
  rw [integer?_eq_some_iff] at whole ⊢
  change IsWhole (Float.Model.pack value.toModel.unpack.neg).unpack _
  cases unpacks : value.toModel.unpack with
  | infinity sign =>
      rw [unpacks] at whole
      exact absurd whole id
  | notANumber =>
      rw [unpacks] at whole
      exact absurd whole id
  | zero sign =>
      rw [unpacks] at whole
      obtain rfl : units = 0 := whole
      simp [UnpackedFloat.neg, IsWhole]
  | finite sign mantissa exponent positive =>
      obtain ⟨lower, upper, low, high⟩ :=
        normal_of_isWhole value.toModel sign mantissa exponent units positive unpacks whole
      rw [unpacks] at whole
      simp only [UnpackedFloat.neg]
      rw [unpack_pack_normal _ mantissa exponent positive lower upper low, if_pos high]
      rw [IsWhole] at whole ⊢
      rw [Int.cast_neg, ← whole, ← neg_mul, ← Int.cast_neg]
      cases sign with
      | negative =>
          rw [show -Sign.negative = Sign.positive from rfl, Sign.apply, Sign.apply, neg_neg]
      | positive => rfl

/-- The product of two whole numbers other than zero is rounded. -/
theorem product_rounds (firstSign secondSign : Sign) (firstMantissa secondMantissa : Nat)
    (firstExponent secondExponent : Int) (firstWhole secondWhole : Nat)
    (firstPositive : 0 < firstMantissa) (secondPositive : 0 < secondMantissa)
    (long : 2 ^ 52 ≤ firstMantissa)
    (firstValue : (firstMantissa : ℚ) * 2 ^ firstExponent = firstWhole)
    (secondValue : (secondMantissa : ℚ) * 2 ^ secondExponent = secondWhole) :
    Rounds (firstSign * secondSign) (firstWhole * secondWhole)
      (UnpackedFloat.mul Format.binary64
        (.finite firstSign firstMantissa firstExponent firstPositive)
        (.finite secondSign secondMantissa secondExponent secondPositive)) := by
  refine ⟨_, _, long.trans (Nat.le_mul_of_pos_right _ secondPositive), ?_, rfl⟩
  rw [zpow_add₀ (by norm_num)]
  push_cast
  rw [← firstValue, ← secondValue]
  ring

/-- A count above zero is rounded on its way to a double. -/
theorem exists_rounds_ofNat (count : Nat) (positive : 0 < count) :
    ∃ unpacked, Rounds .positive count unpacked ∧
      (Float.ofNat count).toModel.unpack = (Float.Model.pack unpacked).unpack := by
  by_cases small : count < 2 ^ 53
  · have one : (Float.ofBits 0x3FF0000000000000).toModel.unpack =
        .finite .positive (2 ^ 52) (-52) (by norm_num) := rfl
    have word : count.toUInt64.toNat = count := by
      rw [Nat.toUInt64, UInt64.toNat_ofNat']
      omega
    have converts : Float.ofNat count =
        count.toUInt64.toFloat * Float.ofBits 0x3FF0000000000000 := by
      change Float.ofScientific count false 0 = _
      rw [Float.ofScientific, dif_pos ⟨small, by norm_num⟩]
      rfl
    obtain ⟨kept, rounded, scale, nonzero, normal, lower, upper, low, above, value, same⟩ :=
      (normalize_rounds (count : Int) count 0 .positive positive (by simp)).isRounded positive
    obtain ⟨rfl, high⟩ := same small
    have unpacks : rounded.toUInt64.toFloat.toModel.unpack =
        .finite .positive kept scale nonzero := by
      change (Float.Model.pack (UnpackedFloat.normalize Format.binary64
        (rounded.toUInt64.toNat : Int) 0 .positive)).unpack = _
      rw [word, normal, unpack_pack_normal _ kept scale nonzero lower upper (by omega),
        if_pos (by omega)]
    refine ⟨UnpackedFloat.mul Format.binary64 (.finite .positive kept scale nonzero)
      (.finite .positive (2 ^ 52) (-52) (by norm_num)), ?_, ?_⟩
    · have product := product_rounds .positive .positive kept (2 ^ 52) scale (-52) rounded 1
        nonzero (by norm_num) lower value (by norm_num)
      rwa [mul_one] at product
    · rw [converts, ← unpacks, ← one]
      rfl
  · have converts : Float.ofNat count =
        .ofModel (Float.Model.pack (UnpackedFloat.ofScientific Format.binary64 count 0)) := by
      change Float.ofScientific count false 0 = _
      rw [Float.ofScientific, dif_neg (fun both => small both.1)]
      rfl
    have scaled : 0 < count <<< 53 := by
      rw [Nat.shiftLeft_eq]
      positivity
    have product := product_rounds .positive .positive (count <<< 53) 1 (-53) 0 count 1 scaled
      one_pos (by rw [Nat.shiftLeft_eq]; omega)
      (by rw [Nat.shiftLeft_eq]; push_cast; norm_num; ring) (by norm_num)
    rw [mul_one] at product
    refine ⟨_, product, ?_⟩
    rw [converts]
    have unfolds : UnpackedFloat.ofScientific Format.binary64 count 0 =
        UnpackedFloat.mul Format.binary64 (.finite .positive (count <<< 53) (-53) scaled)
          (.finite .positive 1 0 one_pos) := by
      rw [UnpackedFloat.ofScientific, dif_neg positive.ne', if_neg (by norm_num),
        if_neg (by norm_num), if_pos le_rfl]
      rfl
    rw [unfolds]

/-- A count above zero becomes a whole double above zero, unless it is too large for a double. -/
theorem ofNat_whole (count : Nat) (positive : 0 < count) :
    (Float.ofNat count).toModel.unpack = .infinity .positive ∨
      ∃ rounded : Nat, 0 < rounded ∧ integer? (Float.ofNat count) = some (rounded : Int) := by
  obtain ⟨unpacked, rounds, same⟩ := exists_rounds_ofNat count positive
  simp only [integer?_eq_some_iff, same]
  exact packed_of_isRounded .positive count unpacked (rounds.isRounded positive)

/-- A count above zero becomes a double above zero. -/
theorem zero_lt_ofNat (count : Nat) (positive : 0 < count) : 0.0 < Float.ofNat count := by
  rcases ofNat_whole count positive with infinite | ⟨rounded, above, whole⟩
  · rw [Packing.zero_lt_iff, infinite]
    trivial
  · exact (zero_lt_of_integer? _ _ whole).mpr (by omega)

/-- A charge of at least some units is a whole number at or below their negative. -/
def IsCharge (least : Nat) (amount : Float) : Prop :=
  ∃ units : Nat, least ≤ units ∧ integer? amount = some (-(units : Int))

/-- A debit is a charge or minus infinity. -/
def IsDebit (least : Nat) (amount : Float) : Prop :=
  amount.toModel.unpack = .infinity .negative ∨ IsCharge least amount

theorem IsDebit.mono {least most : Nat} (lower : least ≤ most) {amount : Float}
    (debit : IsDebit most amount) : IsDebit least amount := by
  rcases debit with everything | ⟨units, enough, whole⟩
  · exact .inl everything
  · exact .inr ⟨units, lower.trans enough, whole⟩

/-- A charge is finite. -/
theorem IsCharge.isFinite {least : Nat} {amount : Float} (charge : IsCharge least amount) :
    amount.isFinite = true := by
  obtain ⟨units, -, whole⟩ := charge
  rw [integer?_eq_some_iff] at whole
  change amount.toModel.unpack.isFinite = true
  generalize amount.toModel.unpack = unpacked at whole
  rcases unpacked with _ | _ | _ | _
  · exact absurd whole id
  · exact absurd whole id
  · rfl
  · rfl

/-- A charge is not positive. -/
theorem IsCharge.not_zero_lt {least : Nat} {amount : Float} (charge : IsCharge least amount) :
    ¬ 0.0 < amount := by
  obtain ⟨units, -, whole⟩ := charge
  rw [zero_lt_of_integer? amount _ whole]
  omega

/-- A double that holds zero is one of the two zeros. -/
theorem zero_of_integer? (value : Float) (whole : integer? value = some 0) :
    ∃ sign, value.toModel.unpack = .zero sign := by
  rw [integer?_eq_some_iff] at whole
  cases unpacks : value.toModel.unpack with
  | infinity sign =>
      rw [unpacks] at whole
      exact absurd whole id
  | notANumber =>
      rw [unpacks] at whole
      exact absurd whole id
  | zero sign => exact ⟨sign, rfl⟩
  | finite sign mantissa exponent nonzero =>
      rw [unpacks] at whole
      have value := (apply_value _ _ _ _).mp whole
      have above : (0 : ℚ) < mantissa * 2 ^ exponent := by positivity
      rw [value] at above
      cases sign <;> simp [Sign.apply] at above

/-- A whole double other than zero has the sign of its number and a mantissa of fifty-three bits. -/
theorem finite_of_integer? (value : Float) (sign : Sign) (units : Nat) (positive : 0 < units)
    (whole : integer? value = some (sign.apply units)) :
    ∃ (mantissa : Nat) (exponent : Int) (nonzero : 0 < mantissa),
      value.toModel.unpack = .finite sign mantissa exponent nonzero ∧ 2 ^ 52 ≤ mantissa ∧
        (mantissa : ℚ) * 2 ^ exponent = units := by
  rw [integer?_eq_some_iff] at whole
  cases unpacks : value.toModel.unpack with
  | infinity other =>
      rw [unpacks] at whole
      exact absurd whole id
  | notANumber =>
      rw [unpacks] at whole
      exact absurd whole id
  | zero other =>
      rw [unpacks] at whole
      have nothing : sign.apply units = 0 := whole
      cases sign <;> simp only [Sign.apply] at nothing <;> omega
  | finite other mantissa exponent nonzero =>
      obtain ⟨lower, -, -, -⟩ := normal_of_isWhole _ _ _ _ _ _ unpacks whole
      rw [unpacks] at whole
      have above := isPositive_iff _ _ whole
      have same : other = sign := by
        rw [isPositive_finite] at above
        cases sign <;> cases other <;> simp only [Sign.apply] at above <;> grind
      subst same
      refine ⟨mantissa, exponent, nonzero, rfl, lower, ?_⟩
      have value := (apply_value _ _ _ _).mp whole
      rw [value]
      cases other <;> simp [Sign.apply]

/-- A debit of at least one unit stays one when it is multiplied by a count above zero. -/
theorem IsDebit.scaled (amount : Float) (units count : Nat)
    (whole : integer? amount = some (-(units : Int))) (charged : 0 < units)
    (positive : 0 < count) : IsDebit 1 (amount * Float.ofNat count) := by
  obtain ⟨mantissa, exponent, nonzero, unpacks, lower, value⟩ :=
    finite_of_integer? amount .negative units charged whole
  rcases ofNat_whole count positive with infinite | ⟨rounded, above, countWhole⟩
  · left
    change (Float.Model.pack (UnpackedFloat.mul Format.binary64 amount.toModel.unpack
      (Float.ofNat count).toModel.unpack)).unpack = _
    rw [unpacks, infinite]
    exact unpack_pack_infinity .negative
  · obtain ⟨countMantissa, countExponent, countNonzero, countUnpacks, -, countValue⟩ :=
      finite_of_integer? (Float.ofNat count) .positive rounded above countWhole
    have product := packed_of_isRounded _ _ _ ((product_rounds .negative .positive mantissa
      countMantissa exponent countExponent units rounded nonzero countNonzero lower value
      countValue).isRounded (Nat.mul_pos charged above))
    rw [← unpacks, ← countUnpacks] at product
    rcases product with infinite | ⟨total, totalAbove, totalWhole⟩
    · exact Or.inl infinite
    · exact Or.inr ⟨total, totalAbove, (integer?_eq_some_iff _ _).mpr totalWhole⟩

/-- Nothing is charged for any count that is finite as a double. -/
theorem integer?_nothing_mul (amount : Float) (count : Nat) (whole : integer? amount = some 0)
    (positive : 0 < count) (finite : (amount * Float.ofNat count).isFinite = true) :
    integer? (amount * Float.ofNat count) = some 0 := by
  rw [integer?_eq_some_iff]
  change (Float.Model.pack (UnpackedFloat.mul Format.binary64 amount.toModel.unpack
    (Float.ofNat count).toModel.unpack)).unpack.isFinite = true at finite
  change IsWhole (Float.Model.pack (UnpackedFloat.mul Format.binary64 amount.toModel.unpack
    (Float.ofNat count).toModel.unpack)).unpack 0
  obtain ⟨sign, unpacks⟩ := zero_of_integer? amount whole
  rw [unpacks] at finite ⊢
  rcases ofNat_whole count positive with infinite | ⟨rounded, above, countWhole⟩
  · rw [infinite] at finite
    simp [UnpackedFloat.mul, UnpackedFloat.isFinite] at finite
  · obtain ⟨countMantissa, countExponent, countNonzero, countUnpacks, -, -⟩ :=
      finite_of_integer? (Float.ofNat count) .positive rounded above countWhole
    rw [countUnpacks]
    simp [UnpackedFloat.mul, IsWhole]

/-- A charge that is finite when it is multiplied by a count above zero stays a charge. -/
theorem IsCharge.scaled {amount : Float} (charge : IsCharge 0 amount) {count : Nat}
    (positive : 0 < count) (finite : (amount * Float.ofNat count).isFinite = true) :
    IsCharge 0 (amount * Float.ofNat count) := by
  obtain ⟨units, -, whole⟩ := charge
  rcases Nat.eq_zero_or_pos units with rfl | charged
  · exact ⟨0, le_rfl, integer?_nothing_mul amount count whole positive finite⟩
  · rcases IsDebit.scaled amount units count whole charged positive with infinite | ⟨more, -, whole⟩
    · change (amount * Float.ofNat count).toModel.unpack.isFinite = true at finite
      rw [infinite] at finite
      simp [UnpackedFloat.isFinite] at finite
    · exact ⟨more, Nat.zero_le more, whole⟩

/-- A debit leaves a whole balance behind when anything is left at all. -/
theorem IsDebit.left_of_zero_lt (least : Nat) (balance amount : Float) (units : Int)
    (whole : integer? balance = some units) (small : units < 2 ^ 53)
    (debit : IsDebit least amount) (positive : 0.0 < balance + amount) :
    ∃ left : Int, integer? (balance + amount) = some left ∧ 0 < left ∧ left ≤ units - least := by
  rcases debit with everything | ⟨debited, enough, amountWhole⟩
  · have balanceWhole := (integer?_eq_some_iff balance units).mp whole
    rw [zero_lt_iff] at positive
    change IsPositive (Float.Model.pack (UnpackedFloat.add Format.binary64 balance.toModel.unpack
      amount.toModel.unpack)).unpack at positive
    rw [everything] at positive
    generalize balance.toModel.unpack = unpacked at balanceWhole positive
    rcases unpacked with _ | _ | _ | _
    · exact absurd balanceWhole id
    · exact absurd balanceWhole id
    · simp [UnpackedFloat.add] at positive
    · simp [UnpackedFloat.add] at positive
  · by_cases remains : 0 < units + -(debited : Int)
    · exact ⟨_, integer?_add balance amount units _ whole amountWhole remains (by omega), remains,
        by omega⟩
    · exact absurd positive
        (not_zero_lt_add_of_integer? balance amount units _ whole amountWhole (by omega))

/-- An infinite balance is above zero. -/
theorem zero_lt_infinite : (0.0 : Float) < 1.0 / 0.0 := by
  rw [zero_lt_iff]
  exact trivial

/-- An infinite balance stays as it is when a finite amount is added. -/
theorem infinite_add (amount : Float) (finite : amount.isFinite = true) :
    (1.0 / 0.0 : Float) + amount = 1.0 / 0.0 := by
  have infinite : (1.0 / 0.0 : Float).toModel.unpack = .infinity .positive := rfl
  change Float.ofModel (Float.Model.pack (UnpackedFloat.add Format.binary64
    (1.0 / 0.0 : Float).toModel.unpack amount.toModel.unpack)) = _
  change amount.toModel.unpack.isFinite = true at finite
  rw [infinite]
  generalize amount.toModel.unpack = unpacked at finite
  rcases unpacked with _ | _ | _ | _
  · simp [UnpackedFloat.isFinite] at finite
  · simp [UnpackedFloat.isFinite] at finite
  · rfl
  · rfl

/-- An infinite balance that is still above zero has not changed. -/
theorem infinite_add_of_zero_lt (amount : Float) (positive : 0.0 < (1.0 / 0.0 : Float) + amount) :
    (1.0 / 0.0 : Float) + amount = 1.0 / 0.0 := by
  have infinite : (1.0 / 0.0 : Float).toModel.unpack = .infinity .positive := rfl
  rw [zero_lt_iff] at positive
  change IsPositive (Float.Model.pack (UnpackedFloat.add Format.binary64
    (1.0 / 0.0 : Float).toModel.unpack amount.toModel.unpack)).unpack at positive
  change Float.ofModel (Float.Model.pack (UnpackedFloat.add Format.binary64
    (1.0 / 0.0 : Float).toModel.unpack amount.toModel.unpack)) = _
  rw [infinite] at positive ⊢
  generalize amount.toModel.unpack = unpacked at positive
  rcases unpacked with (_ | _) | _ | _ | _
  · change IsPositive (Float.Model.pack .notANumber).unpack at positive
    simp at positive
  · rfl
  · simp [UnpackedFloat.add] at positive
  · rfl
  · rfl

end Reduct.Number
