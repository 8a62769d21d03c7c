import Reduct.Pattern
/-! This file bounds the room that a pattern takes with its repetitions written out. -/

namespace Reduct.Pattern

open Text

/-- The code points that need at most a number of bytes, for every number. -/
def lengthLimits : List Nat := [0x7F, 0x7FF, 0xFFFF]

/-- The first code point after which a range is cut so that all encodings in a part have one length
and differ in a trailing stretch of full bytes alone. -/
def cutAfter? (first last : Nat) : Option Nat :=
  match lengthLimits.find? fun limit => first ≤ limit && limit < last with
  | some limit => some limit
  | none =>
    if last ≤ 0x7F then none
    else
      [0x40, 0x1000, 0x40000].findSome? fun unit =>
        if first / unit == last / unit then none
        else if first % unit != 0 then some (first / unit * unit + unit - 1)
        else if last % unit != unit - 1 then some (last / unit * unit - 1)
        else none

def parts : Nat → Range → List Range
  | 0, range => [range]
  | fuel + 1, range =>
    match cutAfter? range.first range.last with
    | none => [range]
    | some last => parts fuel ⟨range.first, last⟩ ++ parts fuel ⟨last + 1, range.last⟩

def codeBytes (code : Nat) : List UInt8 :=
  Text.utf8Bytes (String.ofList [Char.ofNat code])

/-- The ranges of bytes, one for each place, that encode a part of a range. -/
def byteRanges (part : Range) : List (UInt8 × UInt8) :=
  (codeBytes part.first).zip (codeBytes part.last)

/-- The number of leading elements that two lists share. -/
def sharedLength {α : Type} [BEq α] : List α → List α → Nat
  | left :: lefts, right :: rights =>
    if left == right then sharedLength lefts rights + 1 else 0
  | _, _ => 0

/-- The number of byte ranges of rows in which equal beginnings of neighbours count once. -/
def branchCount (previous : List (UInt8 × UInt8)) : List (List (UInt8 × UInt8)) → Nat
  | [] => 0
  | row :: rows => row.length - sharedLength previous row + branchCount row rows

def stateRoom : Nat := 32

def choiceRoom : Nat := stateRoom + 8

def setRoom (set : CharSet) : Nat :=
  match set.ranges with
  | [⟨first, last⟩] =>
    if first == last then stateRoom * (codeBytes first).length
    else room set
  | _ => room set
where
  /-- The room of a set that has more than one character. -/
  room (set : CharSet) : Nat :=
    if set.isAscii then 2 * stateRoom + 8 * set.ranges.length
    else
      let rows := (set.meet .full).ranges.flatMap fun range => (parts 64 range).map byteRanges
      stateRoom * (2 + branchCount [] rows) + 4 * rows.length

def room : Pattern → Nat
  | .empty => stateRoom
  | .one set => setRoom set
  | .boundary _ => stateRoom
  | .captured inner => inner.room + 2 * stateRoom
  | .sequence first second => first.room + second.room
  | .either first second => first.room + second.room + choiceRoom
  | .repeated inner least none => inner.room * max 1 least + choiceRoom
  | .repeated inner least (some most) =>
    if least = most then inner.room * most
    else inner.room * most + choiceRoom * (most - least) + stateRoom

/-- The room of what every machine has besides its pattern. -/
def frameRoom : Nat := 208

/-- The machine of a pattern may take this room. -/
def maximumRoom : Nat := 10 * 1024 * 1024

def fits (pattern : Pattern) : Bool :=
  pattern.room + frameRoom ≤ maximumRoom

end Reduct.Pattern
