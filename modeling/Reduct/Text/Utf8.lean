namespace Reduct.Text

def utf8Bytes (text : String) : List UInt8 :=
  text.toUTF8.toList

/-- Bytes that are no text: a wrong sequence of a length, or one that ends too early. -/
inductive Utf8Fault where
  | invalid (length index : Nat)
  | incomplete (index : Nat)
  deriving DecidableEq, Repr

def Utf8Fault.message : Utf8Fault → String
  | .invalid length index => s!"invalid utf-8 sequence of {length} bytes from index {index}"
  | .incomplete index => s!"incomplete utf-8 byte sequence from index {index}"

/-- A byte that continues a sequence. -/
def isContinuation (byte : Nat) : Bool :=
  0x80 ≤ byte && byte ≤ 0xBF

/-- The second byte of a sequence, which excludes long forms and surrogates. -/
def isSecond (first second : Nat) : Bool :=
  if first = 0xE0 then 0xA0 ≤ second && second ≤ 0xBF
  else if first = 0xED then 0x80 ≤ second && second ≤ 0x9F
  else if first = 0xF0 then 0x90 ≤ second && second ≤ 0xBF
  else if first = 0xF4 then 0x80 ≤ second && second ≤ 0x8F
  else isContinuation second

/-- The length of a sequence by its first byte. -/
def sequenceLength? (first : Nat) : Option Nat :=
  if first < 0x80 then some 1
  else if 0xC2 ≤ first ∧ first ≤ 0xDF then some 2
  else if 0xE0 ≤ first ∧ first ≤ 0xEF then some 3
  else if 0xF0 ≤ first ∧ first ≤ 0xF4 then some 4
  else none

/-- The number of bytes of a sequence that fit together. -/
def fittingLength (length : Nat) (bytes : List Nat) : Nat :=
  match bytes with
  | [] => 0
  | [_] => 1
  | first :: second :: rest =>
    if length < 2 then 1
    else if isSecond first second then
      2 + ((rest.take (length - 2)).takeWhile isContinuation).length
    else 1

def codePoint (length : Nat) (bytes : List Nat) : Nat :=
  match bytes.take length with
  | [a] => a
  | [a, b] => (a - 0xC0) * 64 + (b - 0x80)
  | [a, b, c] => ((a - 0xE0) * 64 + (b - 0x80)) * 64 + (c - 0x80)
  | [a, b, c, d] => (((a - 0xF0) * 64 + (b - 0x80)) * 64 + (c - 0x80)) * 64 + (d - 0x80)
  | _ => 0

/-- The characters of bytes from an index on; the fuel is their number. -/
def charsOfBytes : Nat → Nat → List Nat → Except Utf8Fault (List Char)
  | 0, _, _ => .ok []
  | _ + 1, _, [] => .ok []
  | fuel + 1, index, first :: rest =>
    match sequenceLength? first with
    | none => .error (.invalid 1 index)
    | some length =>
      let fitting := fittingLength length (first :: rest)
      if fitting = length then do
        let later ← charsOfBytes fuel (index + length) (rest.drop (length - 1))
        pure (Char.ofNat (codePoint length (first :: rest)) :: later)
      else if fitting = rest.length + 1 then .error (.incomplete index)
      else .error (.invalid fitting index)

def ofUtf8 (bytes : List UInt8) : Except Utf8Fault String := do
  pure (String.ofList (← charsOfBytes bytes.length 0 (bytes.map UInt8.toNat)))

end Reduct.Text
