import Reduct.Pattern.Class

namespace Reduct.Pattern

open Text

/-- A set between brackets and how deep its parts are nested. -/
structure Nested (α : Type) where
  value : α
  depth : Nat

/-- The ways in which two sets between brackets are joined. -/
inductive SetOperation where
  | intersection
  | difference
  | symmetricDifference

/-- What is known of the sets before an operation sign. -/
abbrev PendingSet := Option (SetOperation × Nested CharSet)

/-- The items of a bracket so far: all their characters, their number and how deep they are
nested. -/
structure Items where
  set : CharSet := .empty
  count : Nat := 0
  depth : Nat := 0

def Items.add (items : Items) (set : CharSet) (depth : Nat) : Items :=
  ⟨.join [items.set, set], items.count + 1, max items.depth depth⟩

/-- The items together; two or more of them are nested one level deeper. -/
def Items.joined (items : Items) : Nested CharSet :=
  ⟨items.set, if items.count ≤ 1 then items.depth else items.depth + 1⟩

/-- The pending operation is carried out. -/
def joinSets (flags : Flags) (pending : PendingSet) (items : Items) : Nested CharSet :=
  let right : Nested CharSet := ⟨folded flags items.set, items.joined.depth⟩
  match pending with
  | none => right
  | some (operation, left) =>
    let set :=
      match operation with
      | .intersection => left.value.meet right.value
      | .difference => left.value.without right.value
      | .symmetricDifference => left.value.differ right.value
    ⟨set, max left.depth right.depth + 1⟩

/-- A named set of ASCII characters between colons, and whether it is negated. -/
def bracketName? : List Char → Option (CharSet × Bool × List Char)
  | ':' :: rest =>
    let (negated, named) :=
      match rest with
      | '^' :: after => (true, after)
      | _ => (false, rest)
    let name := named.takeWhile fun char => char != ':'
    match named.drop name.length with
    | ':' :: ']' :: after =>
      (asciiClasses.lookup (String.ofList name)).map fun set => (set, negated, after)
    | _ => none
  | _ => none

/-- One end of a range, or a set. -/
def bracketItem? (flags : Flags) : List Char → Option (Escape × List Char)
  | [] => none
  | '\\' :: rest => escape? flags rest
  | char :: rest => some (.literal char false, rest)

/-- The character of an end of a range; between brackets all characters are ASCII beyond Unicode. -/
def bracketChar? (flags : Flags) : Escape → Option Char
  | .literal char _ => if flags.unicode || char.toNat < 128 then some char else none
  | _ => none

/-- What comes after a minus sign when blanks are passed over, and of a comment its opening alone. -/
def afterMinus? (flags : Flags) (chars : List Char) : Option Char :=
  if !flags.verbose then chars.head?
  else
    match chars.dropWhile isBlank with
    | [] => chars.head?
    | '#' :: comment =>
      match comment.dropWhile isBlank with
      | [] => chars.head?
      | char :: _ => some char
    | char :: _ => some char

/-- What stands between brackets: a character, a range of characters or a set. A minus sign stands
for itself before a closing bracket and is half of a sign before another. -/
def bracketRange? (flags : Flags) (chars : List Char) : Option (CharSet × List Char) := do
  let (first, rest) ← bracketItem? flags chars
  match skip flags rest with
  | [] => none
  | '-' :: after =>
    if afterMinus? flags after == some ']' || afterMinus? flags after == some '-' then
      some (← alone? first, '-' :: after)
    else
      let (last, beyond) ← bracketItem? flags (skip flags after)
      let low ← bracketChar? flags first
      let high ← bracketChar? flags last
      if low ≤ high then some (.between low high, beyond) else none
  | next => some (← alone? first, next)
where
  /-- An item that is no end of a range. -/
  alone? : Escape → Option CharSet
    | .set set => some set
    | item => (bracketChar? flags item).map CharSet.single

/-- Minus signs at the front of a bracket stand for themselves. -/
def leadingMinus (flags : Flags) (items : Items) : Nat → List Char → Items × List Char
  | 0, chars => (items, chars)
  | fuel + 1, chars =>
    match chars with
    | '-' :: rest => leadingMinus flags (items.add (.single '-') 0) fuel (skip flags rest)
    | _ => (items, chars)

/-- After the opening bracket: whether the set is negated, its first characters, and the rest. A
closing bracket that comes first stands for itself. -/
def bracketStart (flags : Flags) (chars : List Char) : Bool × Items × List Char :=
  let (negated, start) :=
    match skip flags chars with
    | '^' :: rest => (true, skip flags rest)
    | other => (false, other)
  match leadingMinus flags {} start.length start with
  | (items, rest) =>
    match items.count, rest with
    | 0, ']' :: after => (negated, items.add (.single ']') 0, skip flags after)
    | _, _ => (negated, items, rest)

def bracketItems? (flags : Flags) :
    Nat → PendingSet → Items → List Char → Option (Nested CharSet × List Char)
  | 0, _, _, _ => none
  | fuel + 1, pending, items, chars =>
    let operate (operation : SetOperation) (rest : List Char) :
        Option (Nested CharSet × List Char) :=
      bracketItems? flags fuel (some (operation, joinSets flags pending items)) {} rest
    match skip flags chars with
    | [] => none
    | ']' :: rest => some (joinSets flags pending items, rest)
    | '[' :: rest =>
      match bracketName? rest with
      | some (set, negated, after) =>
        (negated? flags negated (folded flags set)).bind fun named =>
          bracketItems? flags fuel pending (items.add named 0) after
      | none =>
        let (negated, first, opened) := bracketStart flags rest
        (bracketItems? flags fuel none first opened).bind fun (inner, after) =>
          (negated? flags negated inner.value).bind fun set =>
            bracketItems? flags fuel pending (items.add set (inner.depth + 1)) after
    | '&' :: '&' :: rest => operate .intersection rest
    | '-' :: '-' :: rest => operate .difference rest
    | '~' :: '~' :: rest => operate .symmetricDifference rest
    | other =>
      (bracketRange? flags other).bind fun (set, after) =>
        bracketItems? flags fuel pending (items.add set 0) after

def bracket? (flags : Flags) (chars : List Char) : Option (Nested CharSet × List Char) :=
  let (negated, first, opened) := bracketStart flags chars
  (bracketItems? flags (chars.length + 1) none first opened).bind fun (inner, rest) =>
    (negated? flags negated inner.value).map fun set => (⟨set, inner.depth + 1⟩, rest)

end Reduct.Pattern
