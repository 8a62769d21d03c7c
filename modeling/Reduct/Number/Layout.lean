import Reduct.Number.Shortest

namespace Reduct.Number

/-- A layout decides ties, which leading powers are positional, and whether a point is kept. -/
structure Layout where
  tie : Tie
  positional : Int → Bool
  keepsPoint : Bool

namespace Layout

/-- Digits without an exponent are padded with zeros up to the point. -/
def positionalText (layout : Layout) (decimal : Decimal) : List Char :=
  let digits := decimal.text
  if 0 ≤ decimal.scale then
    digits ++ List.replicate decimal.scale.toNat '0' ++
      (if layout.keepsPoint then ['.', '0'] else [])
  else
    let point := digits.length + decimal.scale
    if 0 < point then digits.take point.toNat ++ '.' :: digits.drop point.toNat
    else '0' :: '.' :: List.replicate (-point).toNat '0' ++ digits

/-- An exponent is written with its sign and without padding. -/
def scientificText (decimal : Decimal) : List Char :=
  let fraction := decimal.text.drop 1
  let power := decimal.leading
  decimal.text.take 1 ++ (if fraction.isEmpty then [] else '.' :: fraction) ++
    'e' :: (if power < 0 then '-' else '+') :: Nat.toDigits 10 power.natAbs

def magnitudeText (layout : Layout) (binary : Binary) : List Char :=
  if binary.significand = 0 then layout.positionalText ⟨0, 0⟩
  else
    let decimal := shortest layout.tie binary
    if layout.positional decimal.leading then layout.positionalText decimal
    else scientificText decimal

/-- The text of a finite double, and nothing for any other. -/
def write? (layout : Layout) (value : Float) : Option String :=
  (Binary.ofFloat? value).map fun binary =>
    String.ofList ((if binary.negative then ['-'] else []) ++ layout.magnitudeText binary)

/-- Wire numbers are positional from five zeros after the point up to sixteen digits before it. -/
def wire : Layout :=
  { tie := .toEven
    positional := fun power => -5 ≤ power && power < 16
    keepsPoint := true }

/-- Plain numbers never have an exponent. -/
def plain : Layout :=
  { tie := .away
    positional := fun _ => true
    keepsPoint := false }

end Layout

/-- A number as programs show it: integers below 10^21 are exact and both zeros are `0`. -/
def display (value : Float) : String :=
  if value.isNaN then "NaN"
  else if value == 0.0 then "0"
  else match Layout.plain.write? value with
    | none => if value > 0.0 then "Infinity" else "-Infinity"
    | some text =>
      match integer? value with
      | some whole => if value.abs < 1e21 then toString whole else text
      | none => text

end Reduct.Number
