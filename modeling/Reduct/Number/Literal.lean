import Reduct.Text.Blank
import Reduct.Text.Digit

namespace Reduct.Number

open Reduct.Text

def notANumber : Float := 0.0 / 0.0

def infinity : Float := 1.0 / 0.0

/-- The nearest double of a decimal, where far exponents overflow or vanish. -/
def ofDecimal (digits : Nat) (scale : Int) : Float :=
  let power := scale + (Nat.toDigits 10 digits).length
  if digits = 0 ∨ power < -400 then 0.0
  else if 400 < power then infinity
  else Float.ofScientific digits (decide (scale < 0)) scale.natAbs

/-- The signed exponent after its mark, which needs at least one digit. -/
def exponent? : List Char → Option Int
  | '-' :: digits =>
    if digits.isEmpty then none else (digits? 10 digits).map fun value => -(value : Int)
  | '+' :: digits => if digits.isEmpty then none else (digits? 10 digits).map Int.ofNat
  | digits => if digits.isEmpty then none else (digits? 10 digits).map Int.ofNat

/-- An unsigned decimal has digits before or after a point and may have an exponent. -/
def unsignedDecimal? (chars : List Char) : Option Float :=
  let whole := chars.takeWhile isAsciiDigit
  let afterWhole := chars.dropWhile isAsciiDigit
  let fraction := match afterWhole with
    | '.' :: rest => rest.takeWhile isAsciiDigit
    | _ => []
  let afterFraction := match afterWhole with
    | '.' :: rest => rest.dropWhile isAsciiDigit
    | rest => rest
  if whole.isEmpty && fraction.isEmpty then none
  else
    let power : Option Int := match afterFraction with
      | [] => some 0
      | mark :: rest => if mark == 'e' || mark == 'E' then exponent? rest else none
    match digits? 10 (whole ++ fraction), power with
    | some digits, some exponent => some (ofDecimal digits (exponent - fraction.length))
    | _, _ => none

/-- The words that stand for values without digits. -/
def word? (chars : List Char) : Option Float :=
  let lowered := chars.map lowerAscii
  if lowered = "inf".toList ∨ lowered = "infinity".toList then some infinity
  else if lowered = "nan".toList then some notANumber
  else none

/-- A decimal may carry a sign and may be a word. -/
def decimal? (chars : List Char) : Option Float :=
  let unsigned? (rest : List Char) := (word? rest).or (unsignedDecimal? rest)
  match chars with
  | '-' :: rest => (unsigned? rest).map Float.neg
  | '+' :: rest => unsigned? rest
  | rest => unsigned? rest

/-- The radix and the digits of a text that starts with a radix mark. -/
def radixMark? : List Char → Option (Nat × List Char)
  | '0' :: 'b' :: rest => some (2, rest)
  | '0' :: 'o' :: rest => some (8, rest)
  | '0' :: 'x' :: rest => some (16, rest)
  | _ => none

/-- Digits of a radix are added up in doubles, so long literals lose precision. -/
def accumulate? (radix : Nat) (chars : List Char) : Option Float :=
  chars.foldl
    (fun value char => value.bind fun total =>
      (digit? radix char).map fun digit => total * Float.ofNat radix + Float.ofNat digit)
    (some 0.0)

def literal? (chars : List Char) : Option Float :=
  let lowered := chars.map lowerAscii
  match radixMark? lowered with
  | some (radix, digits) => accumulate? radix digits
  | none => decimal? lowered

/-- A signed integer of a radix that fits a word of sixty-four bits. -/
def word64? (radix : Nat) (chars : List Char) : Option Int :=
  match chars with
  | '-' :: digits =>
    if digits.isEmpty then none
    else ((digits? radix digits).filter (· ≤ Nat.pow 2 63)).map fun value => -(value : Int)
  | '+' :: digits =>
    if digits.isEmpty then none
    else ((digits? radix digits).filter (· < Nat.pow 2 63)).map Int.ofNat
  | digits =>
    if digits.isEmpty then none
    else ((digits? radix digits).filter (· < Nat.pow 2 63)).map Int.ofNat

/-- Whether one text stands somewhere inside another. -/
def occursIn (part : List Char) : List Char → Bool
  | [] => part.isEmpty
  | char :: rest => part.isPrefixOf (char :: rest) || occursIn part rest

/-- The number that a text stands for, which is zero for a blank text. -/
def ofText (text : String) : Float :=
  let trimmed := trim text.toList
  let lowered := trimmed.map lowerAscii
  if trimmed.isEmpty then 0.0
  else match radixMark? lowered with
    | some (radix, digits) => ((word64? radix digits).map Float.ofInt).getD notANumber
    | none =>
      if trimmed = "Infinity".toList ∨ trimmed = "+Infinity".toList then infinity
      else if trimmed = "-Infinity".toList then -infinity
      else if occursIn "inf".toList lowered || occursIn "nan".toList lowered then notANumber
      else (decimal? trimmed).getD notANumber

end Reduct.Number
