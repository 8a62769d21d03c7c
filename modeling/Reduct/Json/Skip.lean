import Reduct.Json.Reader

namespace Reduct.Json.Skip

open Reduct.Text Reduct.Json.Reader

/-- An exponent after its mark needs a digit. -/
def exponentPart (chars : List Char) : Except Fault (List Char) :=
  let digits := match chars with
    | '+' :: rest => rest
    | '-' :: rest => rest
    | rest => rest
  if (digits.takeWhile isAsciiDigit).isEmpty then .error .invalidNumber
  else .ok (digits.dropWhile isAsciiDigit)

/-- A fraction or an exponent may follow. -/
def afterDigits (point : Bool) (chars : List Char) : Except Fault (List Char) :=
  match chars with
  | [] => .ok []
  | mark :: rest =>
    if mark == 'e' || mark == 'E' then exponentPart rest
    else if point && mark == '.' then
      if (rest.takeWhile isAsciiDigit).isEmpty then .error .invalidNumber
      else match rest.dropWhile isAsciiDigit with
        | [] => .ok []
        | next :: more =>
          if next == 'e' || next == 'E' then exponentPart more else .ok (next :: more)
    else .ok chars

def number (chars : List Char) : Except Fault (List Char) :=
  match chars with
  | '0' :: rest =>
    if (rest.takeWhile isAsciiDigit).isEmpty then afterDigits true rest else .error .invalidNumber
  | _ =>
    if (chars.takeWhile isAsciiDigit).isEmpty then .error .invalidNumber
    else afterDigits true (chars.dropWhile isAsciiDigit)

/-- A string after its opening quote; surrogates need not pair. -/
def string : Nat → List Char → Except Fault (List Char)
  | 0, _ => .error .stringUnfinished
  | _ + 1, [] => .error .stringUnfinished
  | _ + 1, '"' :: rest => .ok rest
  | _ + 1, '\\' :: [] => .error .stringUnfinished
  | fuel + 1, '\\' :: 'u' :: rest => do
    let (_, rest) ← hexEscape rest
    string fuel rest
  | fuel + 1, '\\' :: char :: rest =>
    if (simpleEscape? char).isSome then string fuel rest else .error .invalidEscape
  | fuel + 1, char :: rest =>
    if char.toNat < 32 then .error .controlCharacter else string fuel rest

/-- An open container. -/
inductive Frame where
  | array
  | object

/-- A key and its colon. -/
def key (chars : List Char) : Except Fault (List Char) :=
  match skipSpace chars with
  | [] => .error .objectUnfinished
  | '"' :: rest => do colon (← string (rest.length + 1) rest)
  | _ => .error .keyMustBeString

mutual

/-- A value inside open containers; the fuel is the length of the text. -/
def value : Nat → List Frame → List Char → Except Fault (List Char)
  | 0, _, _ => .error .valueUnfinished
  | fuel + 1, frames, chars =>
    match skipSpace chars with
    | [] => .error .valueUnfinished
    | 'n' :: rest => do afterValue fuel frames (← ident ['u', 'l', 'l'] rest)
    | 't' :: rest => do afterValue fuel frames (← ident ['r', 'u', 'e'] rest)
    | 'f' :: rest => do afterValue fuel frames (← ident ['a', 'l', 's', 'e'] rest)
    | '-' :: rest => do afterValue fuel frames (← number rest)
    | '"' :: rest => do afterValue fuel frames (← string (rest.length + 1) rest)
    | '[' :: rest =>
      match skipSpace rest with
      | [] => .error .listUnfinished
      | ']' :: more => afterValue fuel frames more
      | more => value fuel (.array :: frames) more
    | '\x7b' :: rest =>
      match skipSpace rest with
      | [] => .error .objectUnfinished
      | '\x7d' :: more => afterValue fuel frames more
      | more => do value fuel (.object :: frames) (← key more)
    | char :: rest =>
      if isAsciiDigit char then do afterValue fuel frames (← number (char :: rest))
      else .error .valueExpected

/-- A comma, the end of the innermost container, or the end of the value. -/
def afterValue : Nat → List Frame → List Char → Except Fault (List Char)
  | _, [], chars => .ok chars
  | 0, _ :: _, _ => .error .valueUnfinished
  | fuel + 1, .array :: outer, chars =>
    match skipSpace chars with
    | [] => .error .listUnfinished
    | ']' :: rest => afterValue fuel outer rest
    | ',' :: rest => value fuel (.array :: outer) rest
    | _ => .error .listCommaOrEndExpected
  | fuel + 1, .object :: outer, chars =>
    match skipSpace chars with
    | [] => .error .objectUnfinished
    | '\x7d' :: rest => afterValue fuel outer rest
    | ',' :: rest => do value fuel (.object :: outer) (← key rest)
    | _ => .error .objectCommaOrEndExpected

end

end Reduct.Json.Skip
