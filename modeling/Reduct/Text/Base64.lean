namespace Reduct.Text.Base64

/-- The symbols in the order of their values. -/
def alphabet : List Char :=
  "ABCDEFGHIJKLMNOPQRSTUVWXYZabcdefghijklmnopqrstuvwxyz0123456789+/".toList

def symbol (value : Nat) : Char :=
  alphabet.getD (value % 64) 'A'

/-- Three bytes make four symbols, and padding fills the last group. -/
def encodeChars : List UInt8 → List Char
  | [] => []
  | [a] =>
    let bits := a.toNat * 16
    [symbol (bits / 64), symbol bits, '=', '=']
  | [a, b] =>
    let bits := (a.toNat * 256 + b.toNat) * 4
    [symbol (bits / 4096), symbol (bits / 64), symbol bits, '=']
  | a :: b :: c :: rest =>
    let bits := (a.toNat * 256 + b.toNat) * 256 + c.toNat
    symbol (bits / 262144) :: symbol (bits / 4096) :: symbol (bits / 64) :: symbol bits ::
      encodeChars rest

def encode (bytes : List UInt8) : String :=
  String.ofList (encodeChars bytes)

inductive Fault where
  | symbol (byte offset : Nat)
  | inputLength (length : Nat)
  | lastSymbol (byte offset : Nat)
  | padding
  deriving DecidableEq, Repr

def Fault.message : Fault → String
  | .symbol byte offset => s!"Invalid symbol {byte}, offset {offset}."
  | .inputLength length => s!"Invalid input length: {length}"
  | .lastSymbol byte offset => s!"Invalid last symbol {byte}, offset {offset}."
  | .padding => "Invalid padding"

def pad : Nat := 61

def value? (byte : Nat) : Option Nat :=
  alphabet.findIdx? fun char => char.toNat == byte

/-- The values of symbols from an offset on, none of which may be padding. -/
def values : Nat → List Nat → Except Fault (List Nat)
  | _, [] => .ok []
  | offset, byte :: rest =>
    match value? byte with
    | some value => do pure (value :: (← values (offset + 1) rest))
    | none => .error (.symbol byte offset)

/-- Four values make three bytes. -/
def bytesOfValues : List Nat → List UInt8
  | a :: b :: c :: d :: rest =>
    let bits := ((a * 64 + b) * 64 + c) * 64 + d
    (bits / 65536).toUInt8 :: (bits / 256).toUInt8 :: bits.toUInt8 :: bytesOfValues rest
  | _ => []

/-- The last group: symbols, then padding after the second or the third of them. -/
def lastValues (offset : Nat) (bytes : List Nat) : Except Fault (List Nat) :=
  let symbols := bytes.takeWhile (· ≠ pad)
  let rest := bytes.dropWhile (· ≠ pad)
  do
    let found ← values offset symbols
    if rest.isEmpty then pure found
    else if symbols.length < 2 then .error (.symbol pad (offset + symbols.length))
    else if rest.all (· == pad) then pure found
    else .error (.symbol pad (offset + symbols.length))

/-- The bytes of the last group, whose unused bits are zero. -/
def lastBytes (offset : Nat) (bytes : List Nat) : Except Fault (List UInt8) := do
  let found ← lastValues offset bytes
  if found.length < 2 then .error (.inputLength (offset + found.length))
  else if bytes.length % 4 ≠ 0 then .error .padding
  else
    let count := found.length * 6 / 8
    let decoded := bytesOfValues (found ++ List.replicate (4 - found.length) 0)
    if (decoded.drop count).all (· == 0) then pure (decoded.take count)
    else .error (.lastSymbol (bytes.getD (found.length - 1) 0) (offset + found.length - 1))

/-- A stray byte after full groups is reported first. -/
def strayByte (bytes : List Nat) : Except Fault Unit :=
  match bytes.getLast? with
  | some last =>
    if bytes.length % 4 = 1 ∧ last ≠ pad ∧ (value? last).isNone then
      .error (.symbol last (bytes.length - 1))
    else .ok ()
  | none => .ok ()

def decode (text : List UInt8) : Except Fault (List UInt8) :=
  let bytes := text.map UInt8.toNat
  if bytes.isEmpty then .ok []
  else do
    strayByte bytes
    let full := (bytes.length - 1) / 4 * 4
    let found ← values 0 (bytes.take full)
    let last ← lastBytes full (bytes.drop full)
    pure (bytesOfValues found ++ last)

end Reduct.Text.Base64
