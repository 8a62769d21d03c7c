import Reduct.Error
import Reduct.Token.Rule

namespace Reduct.Token

open Reduct.Text

/-- A segment is what one rule takes, with the keyword mark that a name may be followed by. -/
structure Segment where
  rule : Rule
  lexeme : List Char
  marker : Nat
  deriving DecidableEq, Repr

def Segment.length (segment : Segment) : Nat :=
  segment.lexeme.length + segment.marker

/-- A byte order mark at the front, carriage returns and blanks at the end are dropped. -/
def clean (chars : List Char) : List Char :=
  let body := match chars with
    | first :: rest => if first.toNat = 0xFEFF then rest else chars
    | [] => []
  trimEnd (body.filter (· ≠ '\r'))

/-- A colon after blanks on the same line marks a keyword; two colons do not. -/
def keywordMarker (chars : List Char) : Nat :=
  let spaces := Rule.run (fun char => isBlank char && char != '\n') chars
  match chars.drop spaces with
  | ':' :: ':' :: _ => 0
  | ':' :: _ => spaces + 1
  | _ => 0

/-- The first rule that takes anything gives the next segment. -/
def nextSegment? (chars : List Char) : Option Segment :=
  (Rule.all.find? fun rule => 0 < rule.span chars).map fun rule =>
    let span := rule.span chars
    let marker := if rule = .identifier then keywordMarker (chars.drop span) else 0
    ⟨rule, chars.take span, marker⟩

/-- The segments of a text and what no rule takes; the fuel is the length of the text. -/
def segments : Nat → List Char → List Segment × List Char
  | 0, chars => ([], chars)
  | fuel + 1, chars =>
    match nextSegment? chars with
    | none => ([], chars)
    | some segment =>
      let (later, rest) := segments fuel (chars.drop segment.length)
      (segment :: later, rest)

/-- A backslash before a double quote is dropped. -/
def unescapeQuotes : List Char → List Char
  | '\\' :: '"' :: rest => '"' :: unescapeQuotes rest
  | char :: rest => char :: unescapeQuotes rest
  | [] => []

/-- The kind of the token that a segment makes; blanks and comments make none. -/
def Segment.kind? (segment : Segment) : Option Kind :=
  match segment.rule with
  | .openList => some .openList
  | .close => some .close
  | .openQuote => some .openQuote
  | .blank => none
  | .comment => none
  | .number =>
    if Rule.numberBody segment.lexeme = segment.lexeme.length then some .number
    else some .suffixedNumber
  | .string => some .string
  | .json => some .json
  | .identifier => some .identifier
  | .openArray => some .openArray
  | .closeArray => some .closeArray

def Segment.token? (segment : Segment) (position : Position) : Option Token :=
  segment.kind?.map fun kind =>
    let text := if kind = .string then unescapeQuotes segment.lexeme else segment.lexeme
    ⟨kind, String.ofList text, position.line, position.column, 0 < segment.marker⟩

/-- The tokens of segments from a place on, and the place after them. -/
def tokensFrom : Position → List Char → List Segment → List Token × Position
  | position, _, [] => ([], position)
  | position, chars, segment :: later =>
    let covered := chars.take segment.length
    let (tokens, final) := tokensFrom (position.after covered) (chars.drop segment.length) later
    ((segment.token? position).toList ++ tokens, final)

def snippetLength : Nat := 24

def scan (source : String) : Except Error (List Token) :=
  let chars := clean source.toList
  let (found, rest) := segments chars.length chars
  let (tokens, final) := tokensFrom .start chars found
  if rest.isEmpty then .ok tokens
  else .error (.lex final.line final.column (String.ofList (rest.take snippetLength)))

end Reduct.Token
