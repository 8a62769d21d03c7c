import Reduct.Text.Ranges
import Reduct.Url.Fault

namespace Reduct.Url

inductive Part where
  | number (value : Nat)
  | tooLarge

/-- A part is hexadecimal, octal or decimal as its first characters say. -/
def part? (chars : List Char) : Option Part :=
  let (radix, digits) :=
    match chars with
    | '0' :: 'x' :: rest => (16, rest)
    | '0' :: 'X' :: rest => (16, rest)
    | '0' :: digit :: rest => (8, digit :: rest)
    | other => (10, other)
  if chars.isEmpty then none
  else
    (Text.digits? radix digits).map fun value =>
      if value < Nat.pow 2 32 then .number value else .tooLarge

/-- A name is a numeric address when its last part is a number; an empty last part is passed
over. -/
def endsInNumber (name : List Char) : Bool :=
  let isNumber (chars : List Char) : Bool :=
    (!chars.isEmpty && chars.all Text.isAsciiDigit) || (part? chars).isSome
  match (Text.cut '.' name).reverse with
  | [] :: last :: _ => isNumber last
  | last :: _ => isNumber last
  | [] => false

def partNumbers? : List (List Char) → Option (List Nat)
  | [] => some []
  | chars :: rest =>
    match part? chars with
    | some (.number value) => (partNumbers? rest).map (value :: ·)
    | _ => none

/-- The last part fills the bytes that the others leave. -/
def fourPartAddress (name : List Char) : Except Fault Nat :=
  let parts := Text.cut '.' name
  let given := if parts.getLast? = some [] then parts.dropLast else parts
  if 4 < given.length then .error .fourPartAddress
  else
    match partNumbers? given with
    | none => .error .fourPartAddress
    | some numbers =>
      let upper := numbers.dropLast
      let last := numbers.getLast?.getD 0
      let room := Nat.pow 256 (4 - upper.length)
      if room ≤ last || upper.any (255 < ·) then .error .fourPartAddress
      else .ok (upper.foldl (fun total number => total * 256 + number) 0 * room + last)

/-- The four bytes of an address between dots. -/
def displayFour (address : Nat) : String :=
  let byte (power : Nat) : String := toString (address / Nat.pow 256 power % 256)
  String.intercalate "." [byte 3, byte 2, byte 1, byte 0]

/-- The pieces of an eight-part address so far, and the number of pieces at which zeros were left
out. -/
structure Pieces where
  values : List Nat
  gap : Option Nat

/-- A decimal byte without leading zeros. -/
def decimalByte? (chars : List Char) : Option (Nat × List Char) :=
  let digits := chars.takeWhile Text.isAsciiDigit
  let isPlain : Bool := digits.length = 1 || digits.head? ≠ some '0'
  if digits.isEmpty || !isPlain then none
  else
    ((Text.digits? 10 digits).filter (· < 256)).map fun value => (value, chars.drop digits.length)

/-- Four decimal bytes at the end make two pieces. -/
def trailingBytes? (chars : List Char) : Option (List Nat) := do
  let (first, rest) ← decimalByte? chars
  let (second, rest) ← afterDot? rest
  let (third, rest) ← afterDot? rest
  let (fourth, rest) ← afterDot? rest
  if rest.isEmpty then some [first * 256 + second, third * 256 + fourth] else none
where
  afterDot? : List Char → Option (Nat × List Char)
    | '.' :: rest => decimalByte? rest
    | _ => none

/-- Pieces of up to four hexadecimal digits stand between colons, and two colons in a row leave out
zeros once. -/
def pieces? : Nat → Pieces → List Char → Option Pieces
  | _, pieces, [] => some pieces
  | 0, _, _ => none
  | fuel + 1, pieces, ':' :: rest =>
    if pieces.gap.isSome || 8 ≤ pieces.values.length then none
    else
      let values := pieces.values ++ [0]
      pieces? fuel ⟨values, some values.length⟩ rest
  | fuel + 1, pieces, chars =>
    let digits := (chars.take 4).takeWhile fun char => (Text.digit? 16 char).isSome
    if 8 ≤ pieces.values.length then none
    else
      match (Text.digits? 16 digits), chars.drop digits.length with
      | some value, [] => some { pieces with values := pieces.values ++ [value] }
      | some value, ':' :: next :: rest =>
        pieces? fuel { pieces with values := pieces.values ++ [value] } (next :: rest)
      | some _, '.' :: _ =>
        if digits.isEmpty || 6 < pieces.values.length then none
        else
          (trailingBytes? chars).map fun bytes =>
            { pieces with values := pieces.values ++ bytes }
      | _, _ => none

/-- The eight pieces of an address. Zeros that were left out are put back. -/
def eightPartAddress (chars : List Char) : Except Fault (List Nat) :=
  let start : Option (Pieces × List Char) :=
    match chars with
    | ':' :: ':' :: rest => some (⟨[0], some 1⟩, rest)
    | ':' :: _ => none
    | [] => none
    | [_] => none
    | other => some (⟨[], none⟩, other)
  match start.bind fun (pieces, rest) => pieces? (rest.length + 1) pieces rest with
  | none => .error .eightPartAddress
  | some pieces =>
    match pieces.gap with
    | some gap =>
      .ok (pieces.values.take gap ++ List.replicate (8 - pieces.values.length) 0 ++
        pieces.values.drop gap)
    | none => if pieces.values.length = 8 then .ok pieces.values else .error .eightPartAddress

def leadingZeros (pieces : List Nat) : Nat :=
  (pieces.takeWhile (· == 0)).length

/-- The position and the length of the longest run of zeros, the first one of equals. -/
def longestZeros (pieces : List Nat) : Nat × Nat :=
  (List.range pieces.length).foldl
    (fun (position, length) index =>
      let run := leadingZeros (pieces.drop index)
      if length < run then (index, run) else (position, length))
    (0, 0)

/-- Pieces in hexadecimal between colons. -/
def hexadecimalPieces (pieces : List Nat) : String :=
  String.intercalate ":" (pieces.map fun piece => String.ofList (Nat.toDigits 16 piece))

/-- The pieces between colons, where two colons stand for the longest run of at least two zeros. -/
def displayEight (pieces : List Nat) : String :=
  let (position, length) := longestZeros pieces
  if length < 2 then s!"[{hexadecimalPieces pieces}]"
  else
    let left := hexadecimalPieces (pieces.take position)
    let right := hexadecimalPieces (pieces.drop (position + length))
    s!"[{left}::{right}]"

end Reduct.Url
