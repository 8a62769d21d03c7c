import Reduct.Entries
import Reduct.Json.Fault

namespace Reduct.Json

namespace Reader

open Reduct.Text

def isSpace (char : Char) : Bool :=
  char == ' ' || char == '\n' || char == '\t' || char == '\r'

def skipSpace (chars : List Char) : List Char :=
  chars.dropWhile isSpace

/-- The rest of a keyword has to follow its first letter. -/
def ident : List Char → List Char → Except Fault (List Char)
  | [], rest => .ok rest
  | _ :: _, [] => .error .valueUnfinished
  | expected :: more, char :: rest =>
    if char = expected then ident more rest else .error .identExpected

/-! Strings. -/

/-- Four hexadecimal digits, where fewer than four bytes mean an unfinished string. -/
def hexEscape (chars : List Char) : Except Fault (Nat × List Char) :=
  if (chars.take 4).foldl (fun size char => size + char.utf8Size) 0 < 4 then
    .error .stringUnfinished
  else match digits? 16 (chars.take 4) with
    | some code => .ok (code, chars.drop 4)
    | none => .error .invalidEscape

/-- The second half of a surrogate pair has to follow the first. -/
def surrogatePair (lead : Nat) : List Char → Except Fault (Char × List Char)
  | [] => .error .stringUnfinished
  | '\\' :: [] => .error .stringUnfinished
  | '\\' :: 'u' :: rest => do
    let (trail, rest) ← hexEscape rest
    if 0xDC00 ≤ trail ∧ trail ≤ 0xDFFF then
      pure (Char.ofNat ((lead - 0xD800) * 0x400 + (trail - 0xDC00) + 0x10000), rest)
    else .error .loneLeadingSurrogate
  | _ => .error .hexEscapeUnfinished

/-- A code point of four digits, or of two such escapes. -/
def unicodeEscape (chars : List Char) : Except Fault (Char × List Char) := do
  let (code, rest) ← hexEscape chars
  if 0xDC00 ≤ code ∧ code ≤ 0xDFFF then .error .loneLeadingSurrogate
  else if 0xD800 ≤ code ∧ code ≤ 0xDBFF then surrogatePair code rest
  else pure (Char.ofNat code, rest)

/-- The character of a one-letter escape. -/
def simpleEscape? (char : Char) : Option Char :=
  if char = '"' then some '"'
  else if char = '\\' then some '\\'
  else if char = '/' then some '/'
  else if char = 'b' then some '\x08'
  else if char = 'f' then some '\x0c'
  else if char = 'n' then some '\n'
  else if char = 'r' then some '\r'
  else if char = 't' then some '\t'
  else none

/-- The character after a backslash. -/
def escaped : List Char → Except Fault (Char × List Char)
  | [] => .error .stringUnfinished
  | 'u' :: rest => unicodeEscape rest
  | char :: rest =>
    match simpleEscape? char with
    | some plain => .ok (plain, rest)
    | none => .error .invalidEscape

/-- The body of a string up to its closing quote; the fuel is the length of the text. -/
def stringBody : Nat → List Char → Except Fault (List Char × List Char)
  | 0, _ => .error .stringUnfinished
  | _ + 1, [] => .error .stringUnfinished
  | _ + 1, '"' :: rest => .ok ([], rest)
  | fuel + 1, '\\' :: rest => do
    let (char, rest) ← escaped rest
    let (body, rest) ← stringBody fuel rest
    pure (char :: body, rest)
  | fuel + 1, char :: rest =>
    if char.toNat < 32 then .error .controlCharacter
    else do
      let (body, rest) ← stringBody fuel rest
      pure (char :: body, rest)

/-- A string after its opening quote. -/
def stringRest (chars : List Char) : Except Fault (String × List Char) := do
  let (body, rest) ← stringBody (chars.length + 1) chars
  pure (String.ofList body, rest)

/-! Numbers. -/

/-- Digits join a significand of sixty-four bits while they fit. -/
def absorb (significand : Nat) : List Char → Nat × List Char
  | [] => (significand, [])
  | char :: rest =>
    let next := significand * 10 + (char.toNat - 48)
    if next < Nat.pow 2 64 then absorb next rest else (significand, char :: rest)

def powerOfTen (exponent : Nat) : Float :=
  Float.ofScientific 1 false exponent

/-- A significand is scaled by one double, so the last bit may be off; far negative exponents are
taken in parts. -/
def scaled : Nat → Float → Int → Except Fault Float
  | 0, value, _ => .ok value
  | fuel + 1, value, exponent =>
    if exponent.natAbs ≤ 308 then
      if 0 ≤ exponent then
        let product := value * powerOfTen exponent.natAbs
        if product.isInf then .error .numberOutOfRange else .ok product
      else .ok (value / powerOfTen exponent.natAbs)
    else if value == 0.0 then .ok value
    else if 0 ≤ exponent then .error .numberOutOfRange
    else scaled fuel (value / 1e308) (exponent + 308)

/-- The double of a significand and an exponent. -/
def ofParts (positive : Bool) (significand : Nat) (exponent : Int) : Except Fault Json.Number := do
  let value ← scaled 8 (Float.ofNat significand) exponent
  pure (.real (if positive then value else -value))

/-- The digits of an exponent are at least one; an exponent beyond thirty-one bits overflows. -/
def exponentDigits (positive : Bool) (significand : Nat) (start : Int) (positiveExponent : Bool)
    (chars : List Char) : Except Fault (Json.Number × List Char) :=
  match chars with
  | [] => .error .valueUnfinished
  | first :: _ =>
    if !isAsciiDigit first then .error .invalidNumber
    else
      let rest := chars.dropWhile isAsciiDigit
      let exponent := (digits? 10 (chars.takeWhile isAsciiDigit)).getD 0
      if exponent < Nat.pow 2 31 then do
        let number ← ofParts positive significand
          (if positiveExponent then start + exponent else start - exponent)
        pure (number, rest)
      else if significand ≠ 0 ∧ positiveExponent then .error .numberOutOfRange
      else .ok (.real (if positive then 0.0 else -0.0), rest)

/-- An exponent after its mark may have a sign. -/
def exponentPart (positive : Bool) (significand : Nat) (start : Int) :
    List Char → Except Fault (Json.Number × List Char)
  | '+' :: rest => exponentDigits positive significand start true rest
  | '-' :: rest => exponentDigits positive significand start false rest
  | rest => exponentDigits positive significand start true rest

/-- An exponent or the end of a number with a point. -/
def afterFraction (positive : Bool) (significand : Nat) (exponent : Int) (chars : List Char) :
    Except Fault (Json.Number × List Char) :=
  match chars with
  | mark :: rest =>
    if mark == 'e' || mark == 'E' then exponentPart positive significand exponent rest
    else do pure (← ofParts positive significand exponent, chars)
  | [] => do pure (← ofParts positive significand exponent, chars)

/-- A fraction has at least one digit, and digits that do not fit are ignored. -/
def fractionPart (positive : Bool) (significand : Nat) (exponent : Int) (chars : List Char) :
    Except Fault (Json.Number × List Char) :=
  let digits := chars.takeWhile isAsciiDigit
  let rest := chars.dropWhile isAsciiDigit
  if digits.isEmpty then
    if rest.isEmpty then .error .valueUnfinished else .error .invalidNumber
  else
    let (whole, ignored) := absorb significand digits
    afterFraction positive whole (exponent - (digits.length - ignored.length)) rest

/-- An integer that fits a word stays one; minus zero does not. -/
def wholeNumber (positive : Bool) (significand : Nat) : Json.Number :=
  if positive then .integer significand
  else if significand = 0 ∨ Nat.pow 2 63 < significand then .real (-Float.ofNat significand)
  else .integer (-(significand : Int))

/-- What follows the integer digits; digits that did not fit only raise the exponent. -/
def afterInteger (positive : Bool) (significand : Nat) (overflow : Nat) (chars : List Char) :
    Except Fault (Json.Number × List Char) :=
  match chars with
  | '.' :: rest => fractionPart positive significand overflow rest
  | mark :: rest =>
    if mark == 'e' || mark == 'E' then exponentPart positive significand overflow rest
    else if overflow = 0 then .ok (wholeNumber positive significand, chars)
    else do pure (← ofParts positive significand overflow, chars)
  | [] =>
    if overflow = 0 then .ok (wholeNumber positive significand, chars)
    else do pure (← ofParts positive significand overflow, chars)

/-- A number after its sign starts with one zero or with another digit. -/
def unsignedNumber (positive : Bool) (chars : List Char) : Except Fault (Json.Number × List Char) :=
  match chars with
  | [] => .error .valueUnfinished
  | '0' :: rest =>
    match rest with
    | next :: _ =>
      if isAsciiDigit next then .error .invalidNumber else afterInteger positive 0 0 rest
    | [] => afterInteger positive 0 0 rest
  | first :: _ =>
    if !isAsciiDigit first then .error .invalidNumber
    else
      let (significand, overflow) := absorb 0 (chars.takeWhile isAsciiDigit)
      afterInteger positive significand overflow.length (chars.dropWhile isAsciiDigit)

/-- A number starts with a minus sign or with a digit. -/
def number : List Char → Except Fault (Json.Number × List Char)
  | '-' :: rest => unsignedNumber false rest
  | rest => unsignedNumber true rest

/-! Sequences and members. -/

/-- Another item follows, or the end is next; the separating comma is consumed. -/
def nextItem (first : Bool) (chars : List Char) : Except Fault (Bool × List Char) :=
  match skipSpace chars with
  | [] => .error .listUnfinished
  | ']' :: rest => .ok (false, ']' :: rest)
  | char :: rest =>
    if first then .ok (true, char :: rest)
    else if char = ',' then
      match skipSpace rest with
      | [] => .error .valueUnfinished
      | ']' :: _ => .error .trailingComma
      | next => .ok (true, next)
    else .error .listCommaOrEndExpected

/-- Another key follows, or the end is next; the comma and the opening quote are consumed. -/
def nextKey (first : Bool) (chars : List Char) : Except Fault (Bool × List Char) :=
  match skipSpace chars with
  | [] => .error .objectUnfinished
  | '\x7d' :: rest => .ok (false, '\x7d' :: rest)
  | char :: rest =>
    if first then
      if char = '"' then .ok (true, rest) else .error .keyMustBeString
    else if char = ',' then
      match skipSpace rest with
      | [] => .error .valueUnfinished
      | '"' :: next => .ok (true, next)
      | '\x7d' :: _ => .error .trailingComma
      | _ => .error .keyMustBeString
    else .error .objectCommaOrEndExpected

/-- A colon stands between a key and its value. -/
def colon (chars : List Char) : Except Fault (List Char) :=
  match skipSpace chars with
  | [] => .error .objectUnfinished
  | ':' :: rest => .ok rest
  | _ => .error .colonExpected

def endItems (chars : List Char) : Except Fault (List Char) :=
  match skipSpace chars with
  | [] => .error .listUnfinished
  | ']' :: rest => .ok rest
  | ',' :: rest =>
    match skipSpace rest with
    | ']' :: _ => .error .trailingComma
    | _ => .error .trailingCharacters
  | _ => .error .trailingCharacters

def endMembers (chars : List Char) : Except Fault (List Char) :=
  match skipSpace chars with
  | [] => .error .objectUnfinished
  | '\x7d' :: rest => .ok rest
  | ',' :: _ => .error .trailingComma
  | _ => .error .trailingCharacters

/-- Items are read up to the end of an array; the fuel is the length of the text. -/
def items (item : List Char → Except Fault (Json × List Char)) :
    Nat → Bool → List Char → Except Fault (List Json × List Char)
  | 0, _, _ => .error .listUnfinished
  | fuel + 1, first, chars => do
    let (more, rest) ← nextItem first chars
    if more then
      let (value, rest) ← item rest
      let (values, rest) ← items item fuel false rest
      pure (value :: values, rest)
    else
      let rest ← endItems rest
      pure ([], rest)

/-- Members are read up to the end of an object; the last member of a key wins. -/
def members (value : List Char → Except Fault (Json × List Char)) :
    Nat → Bool → List (String × Json) → List Char → Except Fault (List (String × Json) × List Char)
  | 0, _, _, _ => .error .objectUnfinished
  | fuel + 1, first, found, chars => do
    let (more, rest) ← nextKey first chars
    if more then
      let (key, rest) ← stringRest rest
      let rest ← colon rest
      let (item, rest) ← value rest
      members value fuel false (Entries.insert key item found) rest
    else
      let rest ← endMembers rest
      pure (found, rest)

/-- A value without items of its own. -/
def scalar (chars : List Char) : Except Fault (Json × List Char) :=
  match chars with
  | [] => .error .valueUnfinished
  | 'n' :: rest => do pure (.null, ← ident ['u', 'l', 'l'] rest)
  | 't' :: rest => do pure (.bool true, ← ident ['r', 'u', 'e'] rest)
  | 'f' :: rest => do pure (.bool false, ← ident ['a', 'l', 's', 'e'] rest)
  | '"' :: rest => do
    let (text, rest) ← stringRest rest
    pure (.string text, rest)
  | char :: _ =>
    if char = '-' ∨ isAsciiDigit char then do
      let (value, rest) ← number chars
      pure (.number value, rest)
    else .error .valueExpected

/-- A value whose arrays and objects nest at most to a depth. -/
def value : Nat → List Char → Except Fault (Json × List Char)
  | depth, chars =>
    match skipSpace chars with
    | '[' :: rest =>
      match depth with
      | 0 => .error .recursionLimit
      | inner + 1 => do
        let (found, rest) ← items (value inner) (rest.length + 1) true rest
        pure (.array found, rest)
    | '\x7b' :: rest =>
      match depth with
      | 0 => .error .recursionLimit
      | inner + 1 => do
        let (found, rest) ← members (value inner) (rest.length + 1) true [] rest
        pure (.object found, rest)
    | rest => scalar rest

/-- Only blanks may follow a document. -/
def finished (chars : List Char) : Except Fault Unit :=
  if (skipSpace chars).isEmpty then .ok () else .error .trailingCharacters

/-- The deepest nesting that is read. -/
def maximumDepth : Nat := 127

end Reader

def read (text : String) : Except Fault Json := do
  let (result, rest) ← Reader.value Reader.maximumDepth text.toList
  Reader.finished rest
  pure result

end Reduct.Json
