import Reduct.Pattern.Bracket
import Reduct.Pattern.Cost

namespace Reduct.Pattern

open Text

def maximumNesting : Nat := 250

/-- An item of a pattern; flags are items that match nothing themselves. -/
inductive Item where
  | flags
  | part (nested : Nested Pattern)

def Item.toNested : Item → Nested Pattern
  | .flags => ⟨.empty, 0⟩
  | .part nested => nested

/-- Parts together; two or more of them are nested one level deeper. -/
def together (join : List Pattern → Pattern) (parts : List (Nested Pattern)) : Nested Pattern :=
  let deepest := (parts.map Nested.depth).foldl max 0
  ⟨join (parts.map Nested.value), if parts.length ≤ 1 then deepest else deepest + 1⟩

/-- Items in a row; they are given in reverse. -/
def joinItems (items : List Item) : Nested Pattern :=
  together inRow (items.reverse.map Item.toNested)

/-- Branches side by side; the items of the last and the branches before it are given in reverse. -/
def joinBranches (branches : List (Nested Pattern)) (items : List Item) : Nested Pattern :=
  together among (joinItems items :: branches).reverse

/-- The latest item is repeated; there must be one, and it must not set flags. -/
def repeatLatest? (least : Nat) (most : Option Nat) : List Item → Option (List Item)
  | .part part :: earlier => some (.part ⟨part.value.rounds least most, part.depth + 1⟩ :: earlier)
  | _ => none

/-- A question mark after a repetition makes it prefer fewer rounds, which changes no start. -/
def skipLazy : List Char → List Char
  | '?' :: rest => rest
  | chars => chars

/-- A decimal count of thirty-two bits with blanks around it. -/
def count? (flags : Flags) (chars : List Char) : Option (Nat × List Char) :=
  let (digits, rest) := run flags isAsciiDigit chars.length (chars.dropWhile isBlank)
  if digits.isEmpty then none
  else
    let (_, after) := run flags isBlank rest.length rest
    ((digits? 10 digits).filter (· < Nat.pow 2 32)).map fun count => (count, after)

/-- The counts of a repetition after its opening brace. -/
def counts? (flags : Flags) (chars : List Char) : Option (Nat × Option Nat × List Char) := do
  let (least, rest) ← count? flags (skip flags chars)
  match rest with
  | '\x7d' :: after => pure (least, some least, after)
  | ',' :: later =>
    match skip flags later with
    | '\x7d' :: after => pure (least, none, after)
    | bounded => do
      let (most, closing) ← count? flags bounded
      match closing with
      | '\x7d' :: after => if least ≤ most then pure (least, some most, after) else none
      | _ => none
  | _ => none

/-- What an opening parenthesis starts. -/
inductive Opening where
  | flags (flags : Flags) (rest : List Char)
  | group (flags : Flags) (isCaptured : Bool) (names : List (List Char)) (rest : List Char)

/-- A group's name starts with a letter or an underscore, goes on with letters, numbers and some
marks, and no other group has it. -/
def groupName? (names : List (List Char)) (chars : List Char) :
    Option (List (List Char) × List Char) :=
  let name := chars.takeWhile fun char => char != '>'
  let isFirst (char : Char) : Bool := char == '_' || Property.alphabetic.contains char
  let isLater (char : Char) : Bool :=
    isFirst char || Category.number.contains char || char == '.' || char == '[' || char == ']'
  match name, chars.drop name.length with
  | first :: later, _ :: rest =>
    if isFirst first && later.all isLater && !names.contains name then some (name :: names, rest)
    else none
  | _, _ => none

/-- What stands after an opening parenthesis; looking ahead or behind is refused. -/
def opening? (flags : Flags) (names : List (List Char)) : List Char → Option Opening
  | '?' :: 'P' :: '<' :: rest =>
    (groupName? names rest).map fun (named, after) => .group flags true named after
  | '?' :: '<' :: '=' :: _ => none
  | '?' :: '<' :: '!' :: _ => none
  | '?' :: '<' :: rest =>
    (groupName? names rest).map fun (named, after) => .group flags true named after
  | '?' :: ')' :: _ => none
  | '?' :: rest =>
    match flags.read? true [] rest with
    | some (changed, ':' :: after) => some (.group changed false names after)
    | some (changed, ')' :: after) => some (.flags changed after)
    | _ => none
  | rest => some (.group flags true names rest)

/-- The characters that a dot stands for: those that end no line, or all. -/
def dot (flags : Flags) : CharSet :=
  if flags.dotAll then .full
  else if flags.carriageReturns then (CharSet.ofLines ["a d"]).complement
  else (CharSet.single '\n').complement

/-- The start of the text or, in several lines, of a line. -/
def lineStart (flags : Flags) (before after : Option Char) : Bool :=
  before.isNone ||
    (flags.multiLine && (before == some '\n' ||
      (flags.carriageReturns && before == some '\r' && after != some '\n')))

/-- The end of the text or, in several lines, of a line. -/
def lineEnd (flags : Flags) (before after : Option Char) : Bool :=
  after.isNone ||
    (flags.multiLine &&
      (if flags.carriageReturns then
        after == some '\r' || (after == some '\n' && before != some '\r')
      else after == some '\n'))

/-- One item that is neither a group nor a repetition. -/
def item? (flags : Flags) : List Char → Option (Nested Pattern × List Char)
  | [] => none
  | '[' :: rest =>
    (bracket? flags rest).map fun (set, after) => (⟨.one set.value, set.depth⟩, after)
  | '\\' :: rest =>
    (escape? flags rest).bind fun (escape, after) =>
      match escape with
      | .literal char isByte =>
        (literal? flags char isByte).map fun set => (⟨.one (folded flags set), 0⟩, after)
      | .set set => some (⟨.one set, 0⟩, after)
      | .boundary holds => some (⟨.boundary holds, 0⟩, after)
  | '.' :: rest => if flags.unicode then some (⟨.one (dot flags), 0⟩, rest) else none
  | '^' :: rest => some (⟨.boundary (lineStart flags), 0⟩, rest)
  | '$' :: rest => some (⟨.boundary (lineEnd flags), 0⟩, rest)
  | char :: rest => some (⟨.one (folded flags (.single char)), 0⟩, rest)

/-- The branches up to a closing parenthesis or the end of the text. Flags hold from where they are
set to the end of their group. -/
def body? : Nat → Nat → Flags → List (List Char) → List (Nested Pattern) → List Item →
    List Char → Option (Nested Pattern × List (List Char) × List Char)
  | 0, _, _, _, _, _, _ => none
  | fuel + 1, level, flags, names, branches, items, chars =>
    let repeated (least : Nat) (most : Option Nat) (after : List Char) :
        Option (Nested Pattern × List (List Char) × List Char) :=
      (repeatLatest? least most items).bind fun changed =>
        body? fuel level flags names branches changed (skipLazy after)
    match skip flags chars with
    | [] => some (joinBranches branches items, names, [])
    | ')' :: rest => some (joinBranches branches items, names, ')' :: rest)
    | '|' :: rest => body? fuel level flags names (joinItems items :: branches) [] rest
    | '*' :: rest => repeated 0 none rest
    | '+' :: rest => repeated 1 none rest
    | '?' :: rest => repeated 0 (some 1) rest
    | '\x7b' :: rest =>
      (counts? flags rest).bind fun (least, most, after) => repeated least most (skip flags after)
    | '(' :: rest =>
      match opening? flags names (skip flags rest) with
      | none => none
      | some (.flags changed after) => body? fuel level changed names branches (.flags :: items) after
      | some (.group inner isCaptured named after) =>
        if maximumNesting ≤ level then none
        else
          match body? fuel (level + 1) inner named [] [] after with
          | some (group, known, ')' :: beyond) =>
            let pattern := if isCaptured then .captured group.value else group.value
            body? fuel level flags known branches
              (.part ⟨pattern, group.depth + 1⟩ :: items) beyond
          | _ => none
    | other =>
      (item? flags other).bind fun (item, rest) =>
        body? fuel level flags names branches (.part item :: items) rest

/-- The pattern of a written form, and nothing when the form is wrong. -/
def parse? (text : String) : Option Pattern :=
  match body? (text.toList.length + 1) 0 {} [] [] [] text.toList with
  | some (part, _, []) =>
    if part.depth ≤ maximumNesting && part.value.fits then some part.value else none
  | _ => none

end Reduct.Pattern
