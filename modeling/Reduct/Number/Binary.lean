/-! This file reads a double as a signed multiple of a power of two and computes exactly with it. -/

namespace Reduct.Number

/-- A finite double is a signed multiple of a power of two. -/
structure Binary where
  negative : Bool
  significand : Nat
  exponent : Int
  deriving DecidableEq, Repr

namespace Binary

/-- The fields of a double give its sign, its significand and its exponent. -/
def ofFloat? (value : Float) : Option Binary :=
  let bits := value.toBits.toNat
  let biased : Nat := bits / Nat.pow 2 52 % Nat.pow 2 11
  let fraction := bits % Nat.pow 2 52
  let negative := bits / Nat.pow 2 63 == 1
  if biased = Nat.pow 2 11 - 1 then none
  else if biased = 0 then some ⟨negative, fraction, -1074⟩
  else some ⟨negative, fraction + Nat.pow 2 52, (biased : Int) - 1075⟩

/-- The magnitude is written with a whole numerator and a whole denominator. -/
def ratio (binary : Binary) : Nat × Nat :=
  (binary.significand * Nat.pow 2 binary.exponent.toNat, Nat.pow 2 (-binary.exponent).toNat)

/-- A binary number is whole when its denominator divides its numerator. -/
def isWhole (binary : Binary) : Bool :=
  binary.ratio.1 % binary.ratio.2 == 0

/-- The whole part drops the fraction of the magnitude and keeps the sign. -/
def truncate (binary : Binary) : Int :=
  let magnitude : Nat := binary.ratio.1 / binary.ratio.2
  if binary.negative then -(magnitude : Int) else magnitude

/-- The bits of a magnitude that a double holds exactly. -/
def magnitudeBits (significand : Nat) (exponent : Int) : Nat :=
  if significand = 0 then 0
  else
    let top := exponent + significand.log2
    if top < -1022 then
      let shift := exponent + 1074
      if 0 ≤ shift then significand * Nat.pow 2 shift.toNat
      else significand / Nat.pow 2 (-shift).toNat
    else
      let shift := 52 - (significand.log2 : Int)
      let fraction :=
        if 0 ≤ shift then significand * Nat.pow 2 shift.toNat
        else significand / Nat.pow 2 (-shift).toNat
      (top + 1023).toNat * Nat.pow 2 52 + (fraction - Nat.pow 2 52)

/-- A binary number that a double holds exactly is turned into that double. -/
def toFloat (binary : Binary) : Float :=
  let sign := if binary.negative then Nat.pow 2 63 else 0
  Float.ofBits (sign + magnitudeBits binary.significand binary.exponent).toUInt64

end Binary

/-- The exact integer of an integral double. -/
def integer? (value : Float) : Option Int :=
  match Binary.ofFloat? value with
  | some binary => if binary.isWhole then some binary.truncate else none
  | none => none

/-- The largest integral double that is not above the value. -/
def floor (value : Float) : Float :=
  match Binary.ofFloat? value with
  | none => value
  | some binary =>
    if binary.isWhole then value
    else if binary.negative then Float.ofInt (binary.truncate - 1)
    else Float.ofInt binary.truncate

/-- The smallest integral double that is not below the value. -/
def ceiling (value : Float) : Float :=
  -floor (-value)

/-- A half goes up to the next integer. -/
def roundHalfUp (value : Float) : Float :=
  floor (value + 0.5)

/-- The remainder is exact and takes the sign of the dividend. -/
def remainder (dividend divisor : Float) : Float :=
  match Binary.ofFloat? dividend, Binary.ofFloat? divisor with
  | some top, some bottom =>
    if bottom.significand = 0 then 0.0 / 0.0
    else
      let exponent := min top.exponent bottom.exponent
      let scaledTop := top.significand * Nat.pow 2 (top.exponent - exponent).toNat
      let scaledBottom := bottom.significand * Nat.pow 2 (bottom.exponent - exponent).toNat
      (Binary.mk top.negative (scaledTop % scaledBottom) exponent).toFloat
  | some _, none => if divisor.isNaN then divisor else dividend
  | none, _ => 0.0 / 0.0

/-- The smaller of two doubles, where a number wins over a value that is not one. -/
def minimum (left right : Float) : Float :=
  if left.isNaN then right
  else if right.isNaN then left
  else if right < left then right else left

/-- The larger of two doubles, where a number wins over a value that is not one. -/
def maximum (left right : Float) : Float :=
  if left.isNaN then right
  else if right.isNaN then left
  else if left < right then right else left

end Reduct.Number
