import Reduct.Pattern.Flags
import Reduct.Pattern.Property
import Reduct.Text.Class
import Reduct.Text.Folding

namespace Reduct.Pattern

open Text

/-- In verbose stretches blanks are passed over, and comments up to the end of their line. -/
def skipVerbose (flags : Flags) (inComment : Bool) : List Char → List Char
  | [] => []
  | char :: rest =>
    if !flags.verbose then char :: rest
    else if inComment then skipVerbose flags (char != '\n') rest
    else if char = '#' then skipVerbose flags true rest
    else if isBlank char then skipVerbose flags false rest
    else char :: rest

/-- What stands next after blanks and comments of verbose stretches. -/
def skip (flags : Flags) (chars : List Char) : List Char :=
  skipVerbose flags false chars

/-- The first characters of a kind and what follows them, with verbose stretches passed over after
each. -/
def run (flags : Flags) (isPart : Char → Bool) : Nat → List Char → List Char × List Char
  | 0, chars => ([], chars)
  | fuel + 1, chars =>
    match chars with
    | [] => ([], [])
    | char :: rest =>
      if isPart char then
        let (more, after) := run flags isPart fuel (skip flags rest)
        (char :: more, after)
      else ([], chars)

/-- The characters up to a closing brace and what follows it. -/
def braced? (flags : Flags) (chars : List Char) : Option (List Char × List Char) :=
  match run flags (fun char => char != '\x7d') chars.length (skip flags chars) with
  | (inside, _ :: after) => some (inside, after)
  | (_, []) => none

/-- Without regard to case a set accepts every variant of its characters. -/
def folded (flags : Flags) (set : CharSet) : CharSet :=
  if !flags.caseless then set
  else if flags.unicode then set.folded
  else set.foldedAscii

/-- The negation of a set; beyond Unicode it would hold what is no character. -/
def negated? (flags : Flags) (negated : Bool) (set : CharSet) : Option CharSet :=
  if negated && !flags.unicode then none else some (set.negatedIf negated)

def asciiClasses : List (String × CharSet) :=
  [ ("alnum", .ofLines ["30-39 41-5a 61-7a"]), ("alpha", .ofLines ["41-5a 61-7a"]),
    ("ascii", .ascii), ("blank", .ofLines ["9 20"]), ("cntrl", .ofLines ["0-1f 7f"]),
    ("digit", .ofLines ["30-39"]), ("graph", .ofLines ["21-7e"]), ("lower", .ofLines ["61-7a"]),
    ("print", .ofLines ["20-7e"]), ("punct", .ofLines ["21-2f 3a-40 5b-60 7b-7e"]),
    ("space", .ofLines ["9-d 20"]), ("upper", .ofLines ["41-5a"]),
    ("word", .ofLines ["30-39 41-5a 5f 61-7a"]), ("xdigit", .ofLines ["30-39 41-46 61-66"]) ]

/-- The set of a short name: digits, blanks or word characters. -/
def shortClass? (flags : Flags) (letter : Char) : Option CharSet :=
  match letter with
  | 'd' => if flags.unicode then some Category.decimalNumber else asciiClasses.lookup "digit"
  | 's' => if flags.unicode then some Property.whiteSpace else asciiClasses.lookup "space"
  | 'w' => if flags.unicode then some Property.word else asciiClasses.lookup "word"
  | _ => none

/-- What a backslash and the characters after it stand for; a character may be written as a byte. -/
inductive Escape where
  | literal (char : Char) (isByte : Bool)
  | set (set : CharSet)
  | boundary (holds : Option Char → Option Char → Bool)

/-- Whether a neighbour of a position is a word character. -/
def isWord (flags : Flags) (neighbour : Option Char) : Bool :=
  match shortClass? flags 'w', neighbour with
  | some set, some char => set.contains char
  | _, _ => false

def charOfCode? (code : Nat) : Option Char :=
  if code < 0xD800 ∨ (0xDFFF < code ∧ code < 0x110000) then some (Char.ofNat code) else none

/-- A code point in hexadecimal, with a fixed number of digits or between braces. -/
def hexadecimal? (flags : Flags) (width : Nat) (chars : List Char) :
    Option (Escape × List Char) :=
  let read (digits : List Char) : Option Char := (digits? 16 digits).bind charOfCode?
  match skip flags chars with
  | '\x7b' :: rest =>
    (braced? flags rest).bind fun (digits, after) =>
      if digits.isEmpty then none
      else (read digits).map fun char => (.literal char false, after)
  | start =>
    let (digits, after) := run flags (fun _ => true) width start
    if digits.length < width then none
    else (read digits).map fun char => (.literal char (width == 2), after)

/-- What stands before and after the first occurrence of a mark. -/
def splitAt? (mark : List Char) : List Char → Option (List Char × List Char)
  | [] => none
  | char :: rest =>
    if mark.isPrefixOf (char :: rest) then some ([], (char :: rest).drop mark.length)
    else (splitAt? mark rest).map fun (before, after) => (char :: before, after)

/-- The set of a property between braces, and whether it is negated: a name, or a name and a value
that it has or lacks. -/
def propertySet? (text : List Char) : Option (CharSet × Bool) :=
  match splitAt? ['!', '='] text with
  | some (name, value) => (valued? name value).map fun set => (set, true)
  | none =>
    match splitAt? [':'] text, splitAt? ['='] text with
    | some (name, value), _ => (valued? name value).map fun set => (set, false)
    | none, some (name, value) => (valued? name value).map fun set => (set, false)
    | none, none => (named? text).map fun set => (set, false)

/-- The set of a property, whose name is one letter or stands between braces. -/
def property? (flags : Flags) (negated : Bool) (chars : List Char) :
    Option (Escape × List Char) := do
  let (text, after) ←
    match skip flags chars with
    | [] => none
    | '\x7b' :: rest => braced? flags rest
    | letter :: rest => some ([letter], rest)
  let (set, isLacking) ← propertySet? text
  if flags.unicode then
    some (.set ((folded flags set).negatedIf (negated != isLacking)), after)
  else none

/-- A word boundary may be narrowed by a name between braces. Braces that hold no name are left to
be read as a repetition. -/
def wordBoundary? (flags : Flags) (chars : List Char) : Option (Escape × List Char) :=
  let word := isWord flags
  let isNameChar (char : Char) : Bool := (CharSet.ofLines ["2d 41-5a 61-7a"]).contains char
  let plain : Escape := .boundary fun before after => word before != word after
  match chars with
  | '\x7b' :: rest =>
    match run flags isNameChar rest.length (skip flags rest) with
    | ([], []) => none
    | ([], _ :: _) => some (plain, chars)
    | (name, '\x7d' :: after) =>
      match String.ofList name with
      | "start" => some (.boundary fun left right => !word left && word right, after)
      | "end" => some (.boundary fun left right => word left && !word right, after)
      | "start-half" => some (.boundary fun left _ => !word left, after)
      | "end-half" => some (.boundary fun _ right => !word right, after)
      | _ => none
    | _ => none
  | _ => some (plain, chars)

/-- ASCII characters that are neither letters nor digits nor angle brackets stand for themselves. -/
def isEscapable (char : Char) : Bool :=
  char.toNat < 128 && (digitValue? char).isNone && char != '<' && char != '>'

def escape? (flags : Flags) : List Char → Option (Escape × List Char)
  | [] => none
  | letter :: rest =>
    let word := isWord flags
    match letter with
    | 'x' => hexadecimal? flags 2 rest
    | 'u' => hexadecimal? flags 4 rest
    | 'U' => hexadecimal? flags 8 rest
    | 'p' => property? flags false rest
    | 'P' => property? flags true rest
    | 'a' => some (.literal '\x07' false, rest)
    | 'f' => some (.literal '\x0c' false, rest)
    | 't' => some (.literal '\t' false, rest)
    | 'n' => some (.literal '\n' false, rest)
    | 'r' => some (.literal '\r' false, rest)
    | 'v' => some (.literal '\x0b' false, rest)
    | 'A' => some (.boundary fun before _ => before.isNone, rest)
    | 'z' => some (.boundary fun _ after => after.isNone, rest)
    | 'b' => wordBoundary? flags rest
    | 'B' => some (.boundary fun before after => word before == word after, rest)
    | '<' => some (.boundary fun before after => !word before && word after, rest)
    | '>' => some (.boundary fun before after => word before && !word after, rest)
    | _ =>
      match shortClass? flags (lowerAscii letter) with
      | some set =>
        (negated? flags (letter != lowerAscii letter) set).map fun chosen => (.set chosen, rest)
      | none => if isEscapable letter then some (.literal letter false, rest) else none

/-- The set of a character; a byte beyond ASCII is a character in Unicode alone. -/
def literal? (flags : Flags) (char : Char) (isByte : Bool) : Option CharSet :=
  if isByte && !flags.unicode && 128 ≤ char.toNat then none else some (.single char)

end Reduct.Pattern
