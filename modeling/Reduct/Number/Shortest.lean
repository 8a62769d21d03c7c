import Reduct.Number.Binary

namespace Reduct.Number

/-- A positive decimal is a whole number of units of a power of ten. -/
structure Decimal where
  digits : Nat
  scale : Int
  deriving DecidableEq, Repr

/-- A tie rule settles a value midway between two decimals. -/
inductive Tie where
  | toEven
  | away
  deriving DecidableEq, Repr

namespace Decimal

/-- Trailing zeros move into the scale. -/
def strip : Nat → Decimal → Decimal
  | 0, decimal => decimal
  | fuel + 1, decimal =>
    if decimal.digits % 10 = 0 ∧ decimal.digits ≠ 0 then
      strip fuel ⟨decimal.digits / 10, decimal.scale + 1⟩
    else decimal

/-- The written digits, most significant first. -/
def text (decimal : Decimal) : List Char :=
  Nat.toDigits 10 decimal.digits

/-- The power of ten of the leading digit. -/
def leading (decimal : Decimal) : Int :=
  decimal.scale + decimal.text.length - 1

/-- The magnitude as a whole numerator and a whole denominator. -/
def ratio (decimal : Decimal) : Nat × Nat :=
  (decimal.digits * Nat.pow 10 decimal.scale.toNat, Nat.pow 10 (-decimal.scale).toNat)

end Decimal

/-- Two ratios are compared by their cross products. -/
def ratioLE (left right : Nat × Nat) : Bool :=
  left.1 * right.2 ≤ right.1 * left.2

/-- The power of ten of the leading digit of a positive ratio. -/
def leadingPower (numerator denominator : Nat) : Int :=
  if denominator ≤ numerator then
    ((Nat.toDigits 10 (numerator / denominator)).length : Int) - 1
  else
    let inverse := (denominator + numerator - 1) / numerator
    Int.negOfNat (Nat.toDigits 10 (inverse - 1)).length

/-- The reals that round to a positive double lie between two ratios. -/
structure Neighbourhood where
  lower : Nat × Nat
  upper : Nat × Nat
  closed : Bool

/-- The ends lie halfway to the neighbours, and they belong to an even significand. -/
def Neighbourhood.of (binary : Binary) : Neighbourhood :=
  let quarter (units : Nat) : Nat × Nat := (Binary.mk false units (binary.exponent - 2)).ratio
  let below :=
    if binary.significand = Nat.pow 2 52 ∧ -1074 < binary.exponent then 1 else 2
  { lower := quarter (4 * binary.significand - below)
    upper := quarter (4 * binary.significand + 2)
    closed := binary.significand % 2 == 0 }

/-- A ratio reads back when it lies inside the neighbourhood. -/
def Neighbourhood.contains (around : Neighbourhood) (ratio : Nat × Nat) : Bool :=
  if around.closed then ratioLE around.lower ratio && ratioLE ratio around.upper
  else !ratioLE ratio around.lower && !ratioLE around.upper ratio

/-- The closer of the two neighbours on a decimal grid that reads back. -/
def gridCandidate (tie : Tie) (binary : Binary) (scale : Int) : Option Decimal :=
  let value := binary.ratio
  let numerator := value.1 * Nat.pow 10 (-scale).toNat
  let denominator := value.2 * Nat.pow 10 scale.toNat
  let down := numerator / denominator
  let rest := numerator % denominator
  let around := Neighbourhood.of binary
  let below : Decimal := ⟨down, scale⟩
  let above : Decimal := ⟨down + 1, scale⟩
  match around.contains below.ratio && down != 0, around.contains above.ratio with
  | true, true =>
    if 2 * rest < denominator then some below
    else if denominator < 2 * rest then some above
    else match tie with
      | .away => some above
      | .toEven => some (if down % 2 = 0 then below else above)
  | true, false => some below
  | false, true => some above
  | false, false => none

/-- The grids are tried from the coarsest to the finest. -/
def searchGrids (tie : Tie) (binary : Binary) : Nat → Int → Decimal
  | 0, scale =>
    ⟨binary.ratio.1 * Nat.pow 10 (-scale).toNat / (binary.ratio.2 * Nat.pow 10 scale.toNat), scale⟩
  | fuel + 1, scale =>
    match gridCandidate tie binary scale with
    | some decimal => decimal
    | none => searchGrids tie binary fuel (scale - 1)

/-- The fewest digits that read back as a positive double. -/
def shortest (tie : Tie) (binary : Binary) : Decimal :=
  let found := searchGrids tie binary 17 (leadingPower binary.ratio.1 binary.ratio.2)
  found.strip found.digits.log2

end Reduct.Number
