import Mathlib.Data.List.TakeWhile
import Reduct.Proofs.LexicalRule
import Reduct.Proofs.Segments
/-! This file splits a text into pieces, each the match of the first rule that matches there. The
scan of a source finds the pieces of its clean text, makes tokens of those that can be seen, and
fails only where no rule matches. -/

namespace Reduct

namespace Position

/-- The line after some text is one more than the newlines in it. -/
def lineAfter (before : List Char) : Nat :=
  1 + before.count '\n'

/-- The column after some text is one more than the characters since its last newline. -/
def columnAfter (before : List Char) : Nat :=
  1 + (before.reverse.takeWhile (· ≠ '\n')).length

theorem after_append (position : Position) (first second : List Char) :
    position.after (first ++ second) = (position.after first).after second :=
  List.foldl_append

/-- Line and column are carried on from character to character. -/
theorem start_after (before : List Char) :
    start.after before = ⟨lineAfter before, columnAfter before⟩ := by
  induction before using List.reverseRecOn with
  | nil => rfl
  | append_singleton before char inductionHypothesis =>
      rw [after_append, inductionHypothesis]
      change advance _ char = _
      by_cases newline : char = '\n'
      · simp [advance, newline, lineAfter, columnAfter, Nat.add_assoc]
      · simp [advance, newline, lineAfter, columnAfter, Nat.add_comm]

end Position

namespace Token

open Reduct.Text

/-- The first rule that matches at the front of a text, with what it takes and what it leaves. -/
structure FirstMatch (chars : List Char) (rule : Rule) (lexeme rest : List Char) : Prop where
  split : chars = lexeme ++ rest
  nonempty : lexeme ≠ []
  matched : rule.regex.first? chars = some rest
  first : ∃ earlier later, Rule.all = earlier ++ rule :: later ∧
    ∀ other ∈ earlier, other.regex.first? chars = none

/-- A colon after blanks on the same line, before anything but a second colon. -/
def IsMark (mark rest : List Char) : Prop :=
  ∃ blanks, mark = blanks ++ [':'] ∧ (∀ char ∈ blanks, isBlank char = true ∧ char ≠ '\n') ∧
    rest.head? ≠ some ':'

/-- A name takes the keyword mark after it, if there is one, and other rules take none. -/
structure Marks (rule : Rule) (chars mark rest : List Char) : Prop where
  split : chars = mark ++ rest
  name : rule = .identifier →
    IsMark mark rest ∨ (mark = [] ∧ ∀ other left, chars = other ++ left → ¬ IsMark other left)
  other : rule ≠ .identifier → mark = []

/-- A piece of a text stands after some of it and has the lexeme of a rule and a keyword mark. -/
structure Piece where
  before : List Char
  rule : Rule
  lexeme : List Char
  mark : List Char

namespace Piece

def text (piece : Piece) : List Char :=
  piece.lexeme ++ piece.mark

/-- Blanks and comments are not seen. -/
def visible (piece : Piece) : Bool :=
  piece.rule ≠ .blank && piece.rule ≠ .comment

def segment (piece : Piece) : Segment :=
  ⟨piece.rule, piece.lexeme, piece.mark.length⟩

/-- A token has the lexeme of its piece, without backslashes before quotes in a string, and the
place at which the piece stands. -/
structure IsToken (piece : Piece) (token : Token) : Prop where
  kind : piece.segment.kind? = some token.kind
  lexeme : token.lexeme =
    String.ofList (if piece.rule = .string then unescapeQuotes piece.lexeme else piece.lexeme)
  line : token.line = Position.lineAfter piece.before
  column : token.column = Position.columnAfter piece.before
  keyword : token.keyword = true ↔ piece.mark ≠ []

end Piece

/-- The pieces of a text, one after another, and the rest after them. -/
inductive Pieces : List Char → List Char → List Piece → List Char → Prop
  | done (before rest : List Char) : Pieces before rest [] rest
  | next {before chars lexeme after mark later rest : List Char} {rule : Rule}
      {pieces : List Piece} (taken : FirstMatch chars rule lexeme after)
      (marked : Marks rule after mark later)
      (further : Pieces (before ++ (lexeme ++ mark)) later pieces rest) :
      Pieces before chars (⟨before, rule, lexeme, mark⟩ :: pieces) rest

/-- The pieces and the rest make up the text. -/
theorem Pieces.split {before chars rest : List Char} {pieces : List Piece}
    (cut : Pieces before chars pieces rest) :
    chars = (pieces.map Piece.text).flatten ++ rest := by
  induction cut with
  | done before rest => rfl
  | next taken marked _ inductionHypothesis =>
      rw [List.map_cons, List.flatten_cons, List.append_assoc, ← inductionHypothesis, Piece.text,
        List.append_assoc, ← marked.split]
      exact taken.split

/-- A rule without an expression that matches takes nothing. -/
theorem Rule.first?_regex_eq_none_iff (rule : Rule) (chars : List Char) :
    rule.regex.first? chars = none ↔ rule.span chars = 0 := by
  rw [Rule.first?_regex, Regex.cut?]
  split_ifs with positive
  · simp
    omega
  · simp
    omega

/-- Where there is no next segment, no rule matches. -/
theorem first?_eq_none_of_nextSegment? {chars : List Char} (stops : nextSegment? chars = none)
    (rule : Rule) : rule.regex.first? chars = none := by
  rw [Rule.first?_regex_eq_none_iff]
  rw [nextSegment?, Option.map_eq_none_iff, List.find?_eq_none] at stops
  have listed : rule ∈ Rule.all := by
    cases rule <;> decide
  simpa using stops rule listed

/-- The next segment is the match of the first rule that matches. -/
theorem firstMatch_of_nextSegment? {chars : List Char} {segment : Segment}
    (next : nextSegment? chars = some segment) :
    FirstMatch chars segment.rule segment.lexeme (chars.drop segment.lexeme.length) ∧
      segment.marker = if segment.rule = .identifier then
        keywordMarker (chars.drop segment.lexeme.length) else 0 := by
  have filled := (length_pos_of_nextSegment? next).1
  obtain ⟨rule, found, rfl⟩ := Option.map_eq_some_iff.mp next
  obtain ⟨applies, earlier, later, order, refused⟩ := List.find?_eq_some_iff_append.mp found
  have positive : 0 < rule.span chars := by simpa using applies
  have behind :
      chars.drop (chars.take (rule.span chars)).length = chars.drop (rule.span chars) := by
    rw [List.length_take]
    rcases Nat.le_total (rule.span chars) chars.length with inside | beyond
    · rw [Nat.min_eq_left inside]
    · rw [Nat.min_eq_right beyond, List.drop_length, List.drop_eq_nil_of_le beyond]
  dsimp only
  rw [behind]
  refine ⟨⟨(List.take_append_drop _ _).symm, ?_, ?_, earlier, later, order, ?_⟩, rfl⟩
  · apply List.ne_nil_of_length_pos
    rw [List.length_take]
    omega
  · rw [Rule.first?_regex, Regex.cut?, if_pos positive]
  · intro other before
    rw [Rule.first?_regex_eq_none_iff]
    simpa using refused other before

/-- A colon after blanks is a keyword mark unless a second colon follows. -/
theorem keywordMarker_append (blanks rest : List Char)
    (blank : ∀ char ∈ blanks, isBlank char = true ∧ char ≠ '\n') :
    keywordMarker (blanks ++ ':' :: rest) =
      if rest.head? = some ':' then 0 else blanks.length + 1 := by
  have spaces : Rule.run (fun char => isBlank char && char != '\n') (blanks ++ ':' :: rest) =
      blanks.length := by
    have all : ∀ char ∈ blanks, (isBlank char && char != '\n') = true := by
      simpa using blank
    have colon : isBlank ':' = false := rfl
    rw [Rule.run, List.takeWhile_append_of_pos all]
    simp [colon]
  rw [keywordMarker, spaces, List.drop_left]
  cases rest with
  | nil => rfl
  | cons second rest => by_cases colon : second = ':' <;> simp [colon]

/-- A text without a mark at its front is not marked. -/
theorem keywordMarker_eq_zero {chars : List Char}
    (unmarked : ∀ mark rest, chars = mark ++ rest → ¬ IsMark mark rest) :
    keywordMarker chars = 0 := by
  by_contra marked
  rw [keywordMarker] at marked
  generalize blank : (fun char => isBlank char && char != '\n') = test at marked
  have split : chars = chars.takeWhile test ++ chars.drop (Rule.run test chars) := by
    rw [Regex.drop_run, List.takeWhile_append_dropWhile]
  split at marked
  · exact marked rfl
  · rename_i rest single behind
    rw [behind, ← List.singleton_append, ← List.append_assoc] at split
    refine unmarked _ rest split ⟨_, rfl, fun char inside => ?_, fun second => ?_⟩
    · have passes := List.mem_takeWhile_imp inside
      rw [← blank] at passes
      simpa using passes
    · obtain ⟨later, rfl⟩ := List.head?_eq_some_iff.mp second
      exact single later rfl
  · exact marked rfl

/-- A name takes the mark that follows it. -/
theorem exists_marks_identifier (chars : List Char) :
    ∃ mark rest, Marks .identifier chars mark rest ∧ keywordMarker chars = mark.length := by
  by_cases marked : ∃ mark rest, chars = mark ++ rest ∧ IsMark mark rest
  · obtain ⟨mark, rest, rfl, isMark⟩ := marked
    refine ⟨mark, rest, ⟨rfl, fun _ => .inl isMark, fun other => absurd rfl other⟩, ?_⟩
    obtain ⟨blanks, rfl, blank, single⟩ := isMark
    rw [List.append_assoc, List.singleton_append, keywordMarker_append blanks rest blank,
      if_neg single, List.length_append, List.length_singleton]
  · have unmarked : ∀ mark rest, chars = mark ++ rest → ¬ IsMark mark rest :=
      fun mark rest split isMark => marked ⟨mark, rest, split, isMark⟩
    refine ⟨[], chars, ⟨rfl, fun _ => .inr ⟨rfl, unmarked⟩, fun _ => rfl⟩, ?_⟩
    exact keywordMarker_eq_zero unmarked

/-- The mark of a segment is what its rule takes after its lexeme. -/
theorem exists_marks {rule : Rule} {marker : Nat} (chars : List Char)
    (length : marker = if rule = .identifier then keywordMarker chars else 0) :
    ∃ mark rest, Marks rule chars mark rest ∧ marker = mark.length := by
  by_cases name : rule = .identifier
  · subst name
    rw [if_pos rfl] at length
    rw [length]
    exact exists_marks_identifier chars
  · rw [if_neg name] at length
    exact ⟨[], chars, ⟨rfl, fun identifier => absurd identifier name, fun _ => rfl⟩, length⟩

/-- With the length of the text as its fuel, the cutting of segments finds the pieces of the text
and stops where no rule matches. -/
theorem exists_pieces (fuel : Nat) (before chars : List Char) (enough : chars.length ≤ fuel) :
    ∃ pieces rest, segments fuel chars = (pieces.map Piece.segment, rest) ∧
      Pieces before chars pieces rest ∧ ∀ rule : Rule, rule.regex.first? rest = none := by
  induction fuel generalizing before chars with
  | zero =>
      obtain rfl : chars = [] := List.length_eq_zero_iff.mp (Nat.le_zero.mp enough)
      exact ⟨[], [], rfl, .done before [], first?_eq_none_of_nextSegment? nextSegment?_nil⟩
  | succ fuel inductionHypothesis =>
      cases next : nextSegment? chars with
      | none =>
          refine ⟨[], chars, ?_, .done before chars, first?_eq_none_of_nextSegment? next⟩
          rw [segments, next]
          rfl
      | some segment =>
          obtain ⟨taken, length⟩ := firstMatch_of_nextSegment? next
          obtain ⟨mark, later, marked, same⟩ := exists_marks _ length
          obtain ⟨filled, advances⟩ := length_pos_of_nextSegment? next
          have behind : chars.drop segment.length = later := by
            rw [Segment.length, ← List.drop_drop, same, marked.split, List.drop_left]
          obtain ⟨pieces, rest, cut, further, stops⟩ := inductionHypothesis
            (before ++ (segment.lexeme ++ mark)) later
            (by rw [← behind, List.length_drop]; omega)
          refine ⟨_ :: pieces, rest, ?_, .next taken marked further, stops⟩
          rw [segments, next]
          simp only [behind, cut, List.map_cons, Piece.segment, ← same]

/-- A piece that can be seen makes its token. -/
theorem Piece.exists_isToken {piece : Piece} (seen : piece.visible = true) :
    ∃ token, piece.segment.token? (Position.start.after piece.before) = some token ∧
      piece.IsToken token := by
  obtain ⟨before, rule, lexeme, mark⟩ := piece
  have kinded : ∃ kind, (⟨rule, lexeme, mark.length⟩ : Segment).kind? = some kind ∧
      (kind = .string ↔ rule = .string) := by
    cases rule with
    | blank => cases seen
    | comment => cases seen
    | number =>
        unfold Segment.kind?
        dsimp only
        split_ifs <;> exact ⟨_, rfl, by decide⟩
    | _ => exact ⟨_, rfl, by decide⟩
  obtain ⟨kind, found, string⟩ := kinded
  simp only [Segment.token?, Piece.segment, found, Option.map_some]
  refine ⟨_, rfl, found, ?_, ?_, ?_, ?_⟩
  · simp only [string]
  · rw [Position.start_after]
  · rw [Position.start_after]
  · simp [List.length_pos_iff]

/-- A piece that is not seen makes no token. -/
theorem Piece.token?_eq_none {piece : Piece} (unseen : piece.visible = false) (place : Position) :
    piece.segment.token? place = none := by
  obtain ⟨before, rule, lexeme, mark⟩ := piece
  cases rule with
  | blank => rfl
  | comment => rfl
  | _ => cases unseen

/-- The pieces of a text make the tokens of those that can be seen, and line and column come to the
end of the last piece. -/
theorem tokensFrom_pieces {before chars rest : List Char} {pieces : List Piece}
    (cut : Pieces before chars pieces rest) :
    ∃ tokens, tokensFrom (Position.start.after before) chars (pieces.map Piece.segment) =
        (tokens, Position.start.after (before ++ (pieces.map Piece.text).flatten)) ∧
      List.Forall₂ Piece.IsToken (pieces.filter Piece.visible) tokens := by
  induction cut with
  | done before rest => exact ⟨[], by simp [tokensFrom], .nil⟩
  | @next before chars lexeme after mark later rest rule pieces taken marked _
      inductionHypothesis =>
      obtain ⟨tokens, made, read⟩ := inductionHypothesis
      have whole : chars = (lexeme ++ mark) ++ later := by
        rw [List.append_assoc, ← marked.split]
        exact taken.split
      have length : (Piece.segment ⟨before, rule, lexeme, mark⟩).length = (lexeme ++ mark).length :=
        List.length_append.symm
      have final : Position.start.after (before ++ (lexeme ++ mark) ++
          (pieces.map Piece.text).flatten) = Position.start.after (before ++
            ((⟨before, rule, lexeme, mark⟩ :: pieces : List Piece).map Piece.text).flatten) := by
        rw [List.append_assoc]
        rfl
      rw [List.map_cons, tokensFrom, length, whole, List.take_left, List.drop_left,
        ← Position.after_append, made, final]
      cases seen : Piece.visible ⟨before, rule, lexeme, mark⟩ with
      | false =>
          rw [Piece.token?_eq_none seen, List.filter_cons_of_neg (by simp [seen])]
          exact ⟨tokens, rfl, read⟩
      | true =>
          obtain ⟨token, same, isToken⟩ := Piece.exists_isToken seen
          rw [same, List.filter_cons_of_pos seen]
          exact ⟨token :: tokens, rfl, .cons isToken read⟩

end Token

end Reduct
