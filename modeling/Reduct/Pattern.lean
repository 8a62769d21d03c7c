import Reduct.Text.CharSet
import Reduct.Text.Utf8

namespace Reduct

/-- A pattern describes stretches of text. -/
inductive Pattern where
  | empty
  | one (set : Text.CharSet)
  | boundary (holds : Option Char → Option Char → Bool)
  | captured (inner : Pattern)
  | sequence (first second : Pattern)
  | either (first second : Pattern)
  | repeated (inner : Pattern) (least : Nat) (most : Option Nat)

namespace Pattern

/-- Whether a pattern describes the empty stretch alone. -/
def isPoint : Pattern → Bool
  | .empty => true
  | .one _ => false
  | .boundary _ => true
  | .captured inner => inner.isPoint
  | .sequence first second => first.isPoint && second.isPoint
  | .either first second => first.isPoint && second.isPoint
  | .repeated inner _ _ => inner.isPoint

/-- A repetition, without rounds that add nothing. -/
def rounds (inner : Pattern) (least : Nat) (most : Option Nat) : Pattern :=
  let fewest := if inner.isPoint then min least 1 else least
  let largest := if inner.isPoint then some (min (most.getD 1) 1) else most
  if largest = some 0 then .empty
  else if fewest = 1 ∧ largest = some 1 then inner
  else .repeated inner fewest largest

/-- Patterns one after the other. -/
def inRow : List Pattern → Pattern
  | [] => .empty
  | [last] => last
  | .empty :: rest => inRow rest
  | first :: rest =>
    match inRow rest with
    | .empty => first
    | others => .sequence first others

/-- Patterns side by side. -/
def among : List Pattern → Pattern
  | [] => .one .empty
  | [last] => last
  | first :: rest => .either first (among rest)

/-- A pattern laid on a text: sets and boundaries have become the positions where they hold. -/
inductive Laid where
  | empty
  | step (hits : List Bool)
  | stay (hits : List Bool)
  | sequence (first second : Laid)
  | either (first second : Laid)
  | repeated (inner : Laid) (least : Nat) (most : Option Nat)

/-- The characters before and after every position of a text. -/
def contexts : Option Char → List Char → List (Option Char × Option Char)
  | before, [] => [(before, none)]
  | before, char :: rest => (before, some char) :: contexts (some char) rest

def lay (text : List Char) : Pattern → Laid
  | .empty => .empty
  | .one set => .step (text.map set.contains)
  | .boundary holds => .stay ((contexts none text).map fun (before, after) => holds before after)
  | .captured inner => lay text inner
  | .sequence first second => .sequence (lay text first) (lay text second)
  | .either first second => .either (lay text first) (lay text second)
  | .repeated inner least most => .repeated (lay text inner) least most

/-- A function is applied a number of times, or until it changes nothing. -/
def iterate (image : List Bool → List Bool) : Nat → List Bool → List Bool
  | 0, marks => marks
  | rounds + 1, marks =>
    let next := image marks
    if next = marks then marks else iterate image rounds next

/-- Marked positions are joined with their images until nothing is new or a number of rounds is
reached. -/
def grow (image : List Bool → List Bool) (rounds : Nat) (marks : List Bool) : List Bool :=
  iterate (fun reached => List.zipWith (· || ·) reached (image reached)) rounds marks

/-- The positions from which a laid pattern leads to one of the marked positions. -/
def Laid.starts : Laid → List Bool → List Bool
  | .empty, ends => ends
  | .step hits, ends => List.zipWith (· && ·) hits ends.tail ++ [false]
  | .stay hits, ends => List.zipWith (· && ·) hits ends
  | .sequence first second, ends => first.starts (second.starts ends)
  | .either first second, ends => List.zipWith (· || ·) (first.starts ends) (second.starts ends)
  | .repeated inner least most, ends =>
    let further :=
      match most with
      | some count => count - least
      | none => ends.length
    iterate inner.starts least (grow inner.starts further ends)

/-- The first position at which a pattern matches. -/
def position? (pattern : Pattern) (text : List Char) : Option Nat :=
  ((lay text pattern).starts (List.replicate (text.length + 1) true)).findIdx? id

/-- The number of bytes before the first match. -/
def offset? (pattern : Pattern) (text : String) : Option Nat :=
  (pattern.position? text.toList).map fun position =>
    (Text.utf8Bytes (String.ofList (text.toList.take position))).length

end Pattern

end Reduct
