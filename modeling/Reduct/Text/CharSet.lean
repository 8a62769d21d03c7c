import Reduct.Text.Ranges
/-! This file treats sets of characters as ascending ranges of code points. -/

namespace Reduct.Text

/-- A set of characters is a list of ascending ranges with gaps between them. -/
structure CharSet where
  ranges : List Range
  deriving DecidableEq, Repr

namespace CharSet

/-- A range joins the latest of the ranges so far, given in reverse, when no gap is between them. -/
def absorb (merged : List Range) (range : Range) : List Range :=
  match merged with
  | [] => [range]
  | latest :: earlier =>
    if range.first ≤ latest.last + 1 then
      ⟨latest.first, max latest.last range.last⟩ :: earlier
    else range :: latest :: earlier

def ofRanges (ranges : List Range) : CharSet :=
  let sorted := ranges.mergeSort fun left right => left.first ≤ right.first
  ⟨(sorted.foldl absorb []).reverse⟩

/-- The set of a written table. -/
def ofLines (lines : List String) : CharSet :=
  ofRanges (rangesOfText lines)

def ofCodes (codes : List Nat) : CharSet :=
  ofRanges (codes.map fun code => ⟨code, code⟩)

def between (first last : Char) : CharSet :=
  ⟨[⟨first.toNat, last.toNat⟩]⟩

def single (char : Char) : CharSet :=
  between char char

def empty : CharSet := ⟨[]⟩

def full : CharSet := ⟨[⟨0, 0xD7FF⟩, ⟨0xE000, 0x10FFFF⟩]⟩

/-- Whether ascending ranges hold a code point. -/
def inAscending (code : Nat) : List Range → Bool
  | [] => false
  | range :: later =>
    if code < range.first then false
    else code ≤ range.last || inAscending code later

def holds (set : CharSet) (code : Nat) : Bool :=
  inAscending code set.ranges

def contains (set : CharSet) (char : Char) : Bool :=
  set.holds char.toNat

/-- The characters of any of some sets. -/
def join (sets : List CharSet) : CharSet :=
  ofRanges (sets.flatMap CharSet.ranges)

/-- The ranges between ascending ranges, from a code point on. -/
def gaps (next : Nat) : List Range → List Range
  | [] => if next ≤ 0x10FFFF then [⟨next, 0x10FFFF⟩] else []
  | range :: later =>
    if next < range.first then ⟨next, range.first - 1⟩ :: gaps (range.last + 1) later
    else gaps (range.last + 1) later

/-- The code points that stand for halves of characters and for no character. -/
def surrogates : Range := ⟨0xD800, 0xDFFF⟩

def complement (set : CharSet) : CharSet :=
  ⟨gaps 0 (ofRanges (surrogates :: set.ranges)).ranges⟩

/-- The characters that two sets both hold. -/
def meet (left right : CharSet) : CharSet :=
  (join [left.complement, right.complement]).complement

/-- The characters of the first set that the second does not hold. -/
def without (left right : CharSet) : CharSet :=
  (join [left.complement, right]).complement

/-- The characters that exactly one of two sets holds. -/
def differ (left right : CharSet) : CharSet :=
  join [left.without right, right.without left]

/-- The set itself or its complement. -/
def negatedIf (set : CharSet) (negated : Bool) : CharSet :=
  if negated then set.complement else set

def ascii : CharSet := ⟨[⟨0, 0x7F⟩]⟩

def isAscii (set : CharSet) : Bool :=
  set.ranges.all fun range => range.last < 0x80

end CharSet

end Reduct.Text
