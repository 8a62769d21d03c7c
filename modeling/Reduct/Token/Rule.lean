import Reduct.Text.Class
import Reduct.Token

namespace Reduct.Token

open Reduct.Text

inductive Rule where
  | openList
  | close
  | openQuote
  | blank
  | comment
  | number
  | string
  | json
  | identifier
  | openArray
  | closeArray
  deriving DecidableEq, Repr

namespace Rule

/-- The rules in the order in which they are tried. -/
def all : List Rule :=
  [.openList, .close, .openQuote, .blank, .comment, .number, .string, .json, .identifier,
    .openArray, .closeArray]

/-- The number of characters at the front that satisfy a test. -/
def run (test : Char → Bool) (chars : List Char) : Nat :=
  (chars.takeWhile test).length

def single (mark : Char) : List Char → Nat
  | char :: _ => if char = mark then 1 else 0
  | [] => 0

/-- An apostrophe and an opening parenthesis. -/
def openQuoteSpan : List Char → Nat
  | first :: second :: _ => if first = '\x27' ∧ second = '(' then 2 else 0
  | _ => 0

/-- A mark, anything, and the next mark that is not the character after the first. -/
def delimited (mark : Char) : List Char → Nat
  | first :: second :: rest =>
    if first ≠ mark then 0
    else if second = mark then 2
    else match rest.findIdx? (· == mark) with
      | some index => index + 3
      | none => 0
  | _ => 0

/-- The body of a string and its closing quote; a backslash keeps the next character. -/
def stringBody : List Char → Option Nat
  | [] => none
  | '"' :: _ => some 1
  | '\\' :: [] => none
  | '\\' :: _ :: rest => (stringBody rest).map (· + 2)
  | _ :: rest => (stringBody rest).map (· + 1)

def stringSpan : List Char → Nat
  | '"' :: rest => ((stringBody rest).map (· + 1)).getD 0
  | _ => 0

/-- A radix mark and at least one digit of the radix. -/
def radixSpan (mark : Char) (radix : Nat) : List Char → Nat
  | '0' :: char :: rest =>
    let digits := run (fun digit => (digit? radix digit).isSome) rest
    if lowerAscii char = mark ∧ 0 < digits then digits + 2 else 0
  | _ => 0

/-- An exponent with its mark, its sign and at least one digit. -/
def exponentSpan : List Char → Nat
  | mark :: rest =>
    if lowerAscii mark ≠ 'e' then 0
    else
      let sign := run (fun char => char == '+' || char == '-') (rest.take 1)
      let digits := run isDecimalDigit (rest.drop sign)
      if 0 < digits then 1 + sign + digits else 0
  | [] => 0

/-- Digits with a point among them or before them. -/
def plainSpan (chars : List Char) : Nat :=
  let whole := run isDecimalDigit chars
  let fraction := match chars.drop whole with
    | '.' :: rest => run isDecimalDigit rest
    | _ => 0
  if 0 < fraction then whole + 1 + fraction else whole

/-- Digits with an optional minus sign, point and exponent. -/
def decimalSpan (chars : List Char) : Nat :=
  let sign := single '-' chars
  let plain := plainSpan (chars.drop sign)
  if 0 < plain then sign + plain + exponentSpan (chars.drop (sign + plain)) else 0

/-- A number without its suffix: the first form that applies. -/
def numberBody (chars : List Char) : Nat :=
  let spans := [radixSpan 'b' 2 chars, radixSpan 'o' 8 chars, radixSpan 'x' 16 chars,
    decimalSpan chars]
  (spans.find? (0 < ·)).getD 0

/-- Letters and percent signs; two letters of other scripts fold to ASCII. -/
def isSuffixChar (char : Char) : Bool :=
  (97 ≤ (lowerAscii char).toNat && (lowerAscii char).toNat ≤ 122) || char == '%' ||
    char.toNat == 0x17F || char.toNat == 0x212A

def numberSpan (chars : List Char) : Nat :=
  let body := numberBody chars
  if 0 < body then body + run isSuffixChar (chars.drop body) else 0

def nameMarks : List Char := "$_~!@#%^&*-=+/|:'<,>.?".toList

def isNameStart (char : Char) : Bool :=
  (97 ≤ (lowerAscii char).toNat && (lowerAscii char).toNat ≤ 122) || nameMarks.contains char ||
    (0x7F ≤ char.toNat && char.toNat ≤ 0xFFFF)

def isNameChar (char : Char) : Bool :=
  isNameStart char || isWordChar char

def nameSpan : List Char → Nat
  | first :: rest => if isNameStart first then 1 + run isNameChar rest else 0
  | [] => 0

/-- The characters that a rule takes from the front of a text; zero means that it does not apply. -/
def span : Rule → List Char → Nat
  | .openList, chars => single '(' chars
  | .close, chars => single ')' chars
  | .openQuote, chars => openQuoteSpan chars
  | .blank, chars => run isBlank chars
  | .comment, chars => delimited ';' chars
  | .number, chars => numberSpan chars
  | .string, chars => stringSpan chars
  | .json, chars => delimited '\x60' chars
  | .identifier, chars => nameSpan chars
  | .openArray, chars => single '[' chars
  | .closeArray, chars => single ']' chars

end Rule

end Reduct.Token
