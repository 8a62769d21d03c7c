namespace Reduct.Text

/-- The value of an ASCII digit or letter as a digit, below thirty-six. -/
def digitValue? (char : Char) : Option Nat :=
  let code := char.toNat
  if 48 ≤ code ∧ code ≤ 57 then some (code - 48)
  else if 97 ≤ code ∧ code ≤ 122 then some (code - 87)
  else if 65 ≤ code ∧ code ≤ 90 then some (code - 55)
  else none

def digit? (radix : Nat) (char : Char) : Option Nat :=
  (digitValue? char).filter (· < radix)

def isAsciiDigit (char : Char) : Bool :=
  (digit? 10 char).isSome

/-- The value of a run of digits of a radix, and nothing when another character occurs. -/
def digits? (radix : Nat) (chars : List Char) : Option Nat :=
  chars.foldl
    (fun value char => value.bind fun total => (digit? radix char).map (total * radix + ·)) (some 0)

def lowerAscii (char : Char) : Char :=
  if 65 ≤ char.toNat ∧ char.toNat ≤ 90 then Char.ofNat (char.toNat + 32) else char

def upperAscii (char : Char) : Char :=
  if 97 ≤ char.toNat ∧ char.toNat ≤ 122 then Char.ofNat (char.toNat - 32) else char

end Reduct.Text
