import Reduct.Text.Digit

namespace Reduct.Text

/-- A text is cut at every occurrence of a mark. -/
def cut (mark : Char) : List Char → List (List Char)
  | [] => [[]]
  | char :: rest =>
    if char = mark then [] :: cut mark rest
    else match cut mark rest with
      | [] => [[char]]
      | first :: others => (char :: first) :: others

/-- A range holds the code points between its ends. -/
structure Range where
  first : Nat
  last : Nat
  deriving DecidableEq, Repr

/-- A written range is one code point or two, in hexadecimal. -/
def Range.ofText? (chars : List Char) : Option Range :=
  match cut '-' chars with
  | [single] => (digits? 16 single).map fun code => ⟨code, code⟩
  | [first, last] =>
    match digits? 16 first, digits? 16 last with
    | some low, some high => some ⟨low, high⟩
    | _, _ => none
  | _ => none

/-- The entries of a written table stand between blanks and on several lines. -/
def entriesOfLines (lines : List String) : List (List Char) :=
  lines.flatMap fun line => cut ' ' line.toList

def rangesOfText (lines : List String) : List Range :=
  (entriesOfLines lines).filterMap Range.ofText?

end Reduct.Text
