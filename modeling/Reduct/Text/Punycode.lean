import Reduct.Text.Digit

namespace Reduct.Text.Punycode

/-- Letters count from zero and digits follow them. -/
def digitChar (digit : Nat) : Char :=
  if digit < 26 then Char.ofNat (97 + digit) else Char.ofNat (22 + digit)

def digit? (char : Char) : Option Nat :=
  (digitValue? char).map fun value => if value < 10 then value + 26 else value - 10

/-- The threshold of a digit lies between one and twenty-six. -/
def threshold (weight bias : Nat) : Nat :=
  max 1 (min 26 (weight - bias))

/-- A large difference is divided until it is small. -/
def shrink (delta weight : Nat) : Nat × Nat :=
  if 455 < delta then shrink (delta / 35) (weight + 36) else (delta, weight)
termination_by delta
decreasing_by omega

/-- The bias follows the differences seen so far. -/
def adapt (delta count : Nat) (isFirst : Bool) : Nat :=
  let damped := if isFirst then delta / 700 else delta / 2
  let (small, weight) := shrink (damped + damped / count) 0
  weight + 36 * small / (small + 38)

/-- A difference in digits of varying weight. -/
def digits (bias weight delta : Nat) : List Char :=
  let least := threshold weight bias
  if delta < least then [digitChar delta]
  else
    digitChar (least + (delta - least) % (36 - least)) ::
      digits bias (weight + 36) ((delta - least) / (36 - least))
termination_by delta
decreasing_by
  have positive : 1 ≤ threshold weight bias := Nat.le_max_left _ _
  have quotient := Nat.div_le_self (delta - threshold weight bias) (36 - threshold weight bias)
  omega

structure Encoder where
  output : List Char
  delta : Nat
  bias : Nat
  handled : Nat

/-- One character is passed while the characters with a code point are inserted. -/
def Encoder.pass (basic code : Nat) (encoder : Encoder) (char : Char) : Encoder :=
  if char.toNat < code then { encoder with delta := encoder.delta + 1 }
  else if char.toNat = code then
    { output := encoder.output ++ digits encoder.bias 36 encoder.delta
      delta := 0
      bias := adapt encoder.delta (encoder.handled + 1) (encoder.handled == basic)
      handled := encoder.handled + 1 }
  else encoder

/-- The code points are inserted in ascending order. -/
def insertAll (chars : List Char) (basic : Nat) : List Nat → Nat → Encoder → Encoder
  | [], _, encoder => encoder
  | code :: later, least, encoder =>
    let moved := { encoder with delta := encoder.delta + (code - least) * (encoder.handled + 1) }
    let passed := chars.foldl (Encoder.pass basic code) moved
    insertAll chars basic later (code + 1) { passed with delta := passed.delta + 1 }

/-- The ASCII characters of a label, a hyphen, and where the other characters go. -/
def encode (chars : List Char) : List Char :=
  let basic := chars.filter (·.toNat < 128)
  let others := ((chars.filter (128 ≤ ·.toNat)).map Char.toNat).eraseDups.mergeSort (· ≤ ·)
  let encoder := insertAll chars basic.length others 128 ⟨[], 0, 72, basic.length⟩
  (if basic.isEmpty then [] else basic ++ ['-']) ++ encoder.output

/-- The difference that some digits write, with the characters after it. -/
def difference? (bias : Nat) : Nat → Nat → Nat → List Char → Option (Nat × List Char)
  | _, _, _, [] => none
  | weight, factor, total, char :: rest =>
    match digit? char with
    | none => none
    | some digit =>
      let least := threshold weight bias
      let next := total + digit * factor
      if digit < least then some (next, rest)
      else difference? bias (weight + 36) (factor * (36 - least)) next rest

def putAt (position : Nat) (char : Char) (chars : List Char) : List Char :=
  chars.take position ++ char :: chars.drop position

/-- Characters are inserted where the digits say. -/
def insertions? : Nat → Nat → Nat → Nat → List Char → List Char → Option (List Char)
  | _, _, _, _, output, [] => some output
  | 0, _, _, _, _, _ => none
  | fuel + 1, code, position, bias, output, rest =>
    match difference? bias 36 1 0 rest with
    | none => none
    | some (delta, later) =>
      let total := position + delta
      let length := output.length + 1
      let nextCode := code + total / length
      if 0x10FFFF < nextCode || (0xD800 ≤ nextCode && nextCode ≤ 0xDFFF) then none
      else
        insertions? fuel nextCode (total % length + 1)
          (adapt delta length (position == 0 && code == 128))
          (putAt (total % length) (Char.ofNat nextCode) output) later

/-- The label that some letters, digits and hyphens stand for. -/
def decode? (chars : List Char) : Option (List Char) :=
  let extension := (chars.reverse.takeWhile (· != '-')).reverse
  let basic := chars.take (chars.length - extension.length - 1)
  if chars.all (·.toNat < 128) then insertions? (extension.length + 1) 128 0 72 basic extension
  else none

end Reduct.Text.Punycode
