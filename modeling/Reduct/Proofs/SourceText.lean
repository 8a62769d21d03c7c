import Mathlib.Data.List.TakeWhile
import Mathlib.Tactic
import Reduct.Proofs.Decimal
import Reduct.Proofs.ExactInteger
import Reduct.Proofs.Literal
import Reduct.Proofs.Segments

namespace Reduct

namespace Node

/-- A double quote in a source string follows a backslash. -/
def sourceEscape (char : Char) : List Char :=
  if char = '"' then ['\\', '"'] else [char]

/-- A source string stands between double quotes. -/
def sourceString (text : String) : List Char :=
  '"' :: text.toList.flatMap sourceEscape ++ ['"']

def sourceInteger (units : Int) : List Char :=
  (toString units).toList

/-- An integral number is written as its integer. -/
def sourceNumber (value : Float) : List Char :=
  sourceInteger ((Number.integer? value).getD 0)

mutual

/-- The source text of a node made of strings, integral numbers, lists and quotes. -/
def source : Node → List Char
  | .string text => sourceString text
  | .number value => sourceNumber value
  | .list items => '(' :: sourceItems items ++ [')']
  | .quote inner => '\x27' :: source inner
  | .null => []
  | .bool _ => []
  | .map _ => []

/-- The items of a list stand one space apart. -/
def sourceItems : List Node → List Char
  | [] => []
  | item :: rest => source item ++ sourceRest rest

/-- Later items follow a space. -/
def sourceRest : List Node → List Char
  | [] => []
  | item :: rest => ' ' :: source item ++ sourceRest rest

end

/-- A node that source text can hold: strings without backslashes and carriage returns, integral
numbers below `2 ^ 53` other than the negative zero, lists, and quoted lists. -/
inductive IsSource : Node → Prop
  | string (text : String) (plain : ∀ char ∈ text.toList, char ≠ '\\' ∧ char ≠ '\r') :
      IsSource (.string text)
  | number (value : Float) (units : Int) (whole : Number.integer? value = some units)
      (small : units.natAbs < 2 ^ 53) (unsigned : value ≠ -0.0) : IsSource (.number value)
  | list (items : List Node) (each : ∀ item ∈ items, IsSource item) : IsSource (.list items)
  | quote (items : List Node) (each : ∀ item ∈ items, IsSource item) :
      IsSource (.quote (.list items))

end Node

namespace Token

open Reduct.Text Reduct.Node

/-- A text that no token goes on into: it is empty or starts with a space or a closing
parenthesis. -/
def Ends (rest : List Char) : Prop :=
  ∀ char ∈ rest.head?, char = ' ' ∨ char = ')'

/-- A test holds of some characters and not of the next one. -/
theorem run_append (test : Char → Bool) (chars rest : List Char)
    (all : ∀ char ∈ chars, test char = true) (stop : ∀ char ∈ rest.head?, test char = false) :
    Rule.run test (chars ++ rest) = chars.length := by
  have nothing : rest.takeWhile test = [] := by
    cases rest with
    | nil => rfl
    | cons char rest => simp [stop char rfl]
  rw [Rule.run, List.takeWhile_append_of_pos all, nothing, List.append_nil]

/-- A rule that applies when no earlier one does cuts the first segment. -/
theorem cuts_first (earlier : List Rule) {rule : Rule} {later : List Rule} {taken rest : List Char}
    (order : Rule.all = earlier ++ rule :: later) (unnamed : rule ≠ .identifier)
    (refused : ∀ other ∈ earlier, other.span (taken ++ rest) = 0)
    (applies : rule.span (taken ++ rest) = taken.length) (nonempty : 0 < taken.length) :
    Cuts (taken ++ rest) [⟨rule, taken, 0⟩] rest := by
  have first : Rule.all.find? (fun other => 0 < other.span (taken ++ rest)) = some rule := by
    have none : earlier.find? (fun other => 0 < other.span (taken ++ rest)) = none := by
      rw [List.find?_eq_none]
      intro other inside
      simp [refused other inside]
    rw [order, List.find?_append, none, Option.none_or, List.find?_cons_of_pos]
    simpa [applies] using nonempty
  have next : nextSegment? (taken ++ rest) = some ⟨rule, taken, 0⟩ := by
    rw [nextSegment?, first]
    simp [applies, unnamed]
  have left : (taken ++ rest).drop (Segment.length ⟨rule, taken, 0⟩) = rest := by
    simp [Segment.length]
  refine .step next ?_
  rw [left]
  exact .done rest

/-- A text that does not start with a byte order mark loses its carriage returns and the blanks at
its end. -/
theorem clean_of_unmarked {chars : List Char}
    (unmarked : ∀ first ∈ chars.head?, first.toNat ≠ 0xFEFF) :
    clean chars = trimEnd (chars.filter (· ≠ '\r')) := by
  cases chars with
  | nil => rfl
  | cons first rest =>
      rw [clean]
      simp [unmarked first rfl]

/-- A text without carriage returns is clean when it neither starts with a byte order mark nor ends
with a blank. -/
theorem clean_eq_self {first last : Char} {tail chars : List Char}
    (started : chars = first :: tail) (unmarked : first.toNat ≠ 0xFEFF)
    (returnless : '\r' ∉ chars) {before : List Char} (ended : chars = before ++ [last])
    (visible : isBlank last = false) : clean chars = chars := by
  have kept : chars.filter (· ≠ '\r') = chars := by
    rw [List.filter_eq_self]
    intro char inside
    simpa using ne_of_mem_of_not_mem inside returnless
  have trimmed : trimEnd chars = chars := by
    simp [ended, trimEnd, visible]
  rw [clean_of_unmarked (by simpa [started] using unmarked), kept, trimmed]

/-- The rules before that of numbers. -/
def delimiterRules : List Rule := [.openList, .close, .openQuote, .blank, .comment]

/-- A character that no delimiter starts with. -/
def IsPlain (char : Char) : Prop :=
  char ≠ '(' ∧ char ≠ ')' ∧ char ≠ '\x27' ∧ isBlank char = false ∧ char ≠ ';'

theorem span_of_isPlain {first : Char} (plain : IsPlain first) (tail : List Char) :
    ∀ rule ∈ delimiterRules, rule.span (first :: tail) = 0 := by
  obtain ⟨opening, closing, quote, blank, comment⟩ := plain
  simp only [delimiterRules, List.forall_mem_cons, Rule.span]
  refine ⟨by simp [Rule.single, opening], by simp [Rule.single, closing], ?_,
    by simp [Rule.run, blank], ?_, by simp⟩
  · cases tail <;> simp [Rule.openQuoteSpan, quote]
  · cases tail <;> simp [Rule.delimited, comment]

/-- The end of a token is no digit, no point, no mark of an exponent or a radix, and no suffix. -/
theorem Ends.cases {rest : List Char} (ends : Ends rest) :
    rest = [] ∨ ∃ tail, rest = ' ' :: tail ∨ rest = ')' :: tail := by
  cases rest with
  | nil => exact .inl rfl
  | cons char tail =>
    rcases ends char rfl with rfl | rfl
    · exact .inr ⟨tail, .inl rfl⟩
    · exact .inr ⟨tail, .inr rfl⟩

theorem isDecimalDigit_of_mem_toDigits {magnitude : Nat} {char : Char}
    (inside : char ∈ Nat.toDigits 10 magnitude) : isDecimalDigit char = true := by
  have digit := isAsciiDigit_of_mem_toDigits inside
  obtain ⟨-, high⟩ := (isAsciiDigit_iff char).mp digit
  rw [isDecimalDigit, if_pos (by omega), digit]

/-- Decimal digits have no radix mark. -/
theorem radixSpan_toDigits (mark : Char) (radix magnitude : Nat) {rest : List Char}
    (ends : Ends rest) (letter : mark ≠ ' ' ∧ mark ≠ ')') :
    Rule.radixSpan mark radix (Nat.toDigits 10 magnitude ++ rest) = 0 := by
  rcases Nat.eq_zero_or_pos magnitude with rfl | positive
  · rw [Nat.toDigits_zero]
    rcases ends.cases with rfl | ⟨tail, rfl | rfl⟩
    · rfl
    · have other : lowerAscii ' ' ≠ mark := letter.1.symm
      simp [Rule.radixSpan, other]
    · have other : lowerAscii ')' ≠ mark := letter.2.symm
      simp [Rule.radixSpan, other]
  · obtain ⟨first, digits, written, leading⟩ := exists_toDigits_cons positive
    rw [written, List.cons_append]
    unfold Rule.radixSpan
    split
    · simp_all
    · rfl

theorem plainSpan_toDigits (magnitude : Nat) {rest : List Char} (ends : Ends rest) :
    Rule.plainSpan (Nat.toDigits 10 magnitude ++ rest) = (Nat.toDigits 10 magnitude).length := by
  have stop : ∀ char ∈ rest.head?, isDecimalDigit char = false := by
    intro char first
    rcases ends char first with rfl | rfl <;> rfl
  have whole := run_append isDecimalDigit (Nat.toDigits 10 magnitude) rest
    (fun char inside => isDecimalDigit_of_mem_toDigits inside) stop
  rw [Rule.plainSpan, whole, List.drop_left]
  rcases ends.cases with rfl | ⟨tail, rfl | rfl⟩ <;> rfl

theorem exponentSpan_of_ends {rest : List Char} (ends : Ends rest) :
    Rule.exponentSpan rest = 0 := by
  rcases ends.cases with rfl | ⟨tail, rfl | rfl⟩ <;> rfl

/-- A minus sign in front of decimal digits belongs to them. -/
theorem decimalSpan_sourceInteger (units : Int) {rest : List Char} (ends : Ends rest) :
    Rule.decimalSpan (sourceInteger units ++ rest) = (sourceInteger units).length := by
  have digits : Nat.toDigits 10 units.natAbs ≠ [] := Nat.toDigits_ne_nil
  have positive : 0 < (Nat.toDigits 10 units.natAbs).length := List.length_pos_iff.mpr digits
  rw [sourceInteger, toList_toString]
  split_ifs
  · have unsigned : Rule.single '-' (Nat.toDigits 10 units.natAbs ++ rest) = 0 := by
      obtain ⟨first, tail, written⟩ := List.exists_cons_of_ne_nil digits
      have digit : isAsciiDigit first = true :=
        isAsciiDigit_of_mem_toDigits (written ▸ List.mem_cons_self)
      have other : first ≠ '-' := by
        rintro rfl
        cases digit
      simp [written, Rule.single, other]
    simp [Rule.decimalSpan, unsigned, plainSpan_toDigits _ ends, exponentSpan_of_ends ends,
      positive]
  · have left : ('-' :: (Nat.toDigits 10 units.natAbs ++ rest)).drop
        (1 + (Nat.toDigits 10 units.natAbs).length) = rest := by
      rw [Nat.add_comm, List.drop_succ_cons, List.drop_left]
    simp [Rule.decimalSpan, Rule.single, plainSpan_toDigits _ ends, left, exponentSpan_of_ends ends,
      positive, Nat.add_comm]

/-- The decimal text of an integer has no radix mark. -/
theorem radixSpan_sourceInteger (mark : Char) (radix : Nat) (units : Int) {rest : List Char}
    (ends : Ends rest) (letter : mark ≠ ' ' ∧ mark ≠ ')') :
    Rule.radixSpan mark radix (sourceInteger units ++ rest) = 0 := by
  rw [sourceInteger, toList_toString]
  split_ifs
  · exact radixSpan_toDigits mark radix units.natAbs ends letter
  · rfl

theorem length_sourceInteger_pos (units : Int) : 0 < (sourceInteger units).length :=
  List.length_pos_iff.mpr (toString_ne_nil units)

/-- The decimal text of an integer is a number. -/
theorem numberBody_sourceInteger (units : Int) {rest : List Char} (ends : Ends rest) :
    Rule.numberBody (sourceInteger units ++ rest) = (sourceInteger units).length := by
  simp [Rule.numberBody, radixSpan_sourceInteger _ _ units ends,
    decimalSpan_sourceInteger units ends, length_sourceInteger_pos]

/-- The characters from the exclamation mark to the tilde are not blank. -/
theorem isBlank_of_graphic {char : Char} (low : 33 ≤ char.toNat) (high : char.toNat ≤ 126) :
    isBlank char = false := by
  simp only [isBlank, Bool.or_eq_false_iff, Bool.and_eq_false_imp, decide_eq_true_eq,
    decide_eq_false_iff_not, beq_eq_false_iff_ne]
  omega

/-- No delimiter starts with a character of an integer. -/
theorem isPlain_of_mem_sourceInteger {units : Int} {char : Char}
    (inside : char ∈ sourceInteger units) : IsPlain char := by
  have starts := startsNumber_of_mem_toString inside
  refine ⟨starts.ne _ (by decide), starts.ne _ (by decide), starts.ne _ (by decide), ?_,
    starts.ne _ (by decide)⟩
  rcases starts with rfl | digit
  · rfl
  · obtain ⟨low, high⟩ := (isAsciiDigit_iff char).mp digit
    exact isBlank_of_graphic (by omega) (by omega)

theorem run_isSuffixChar_of_ends {rest : List Char} (ends : Ends rest) :
    Rule.run Rule.isSuffixChar rest = 0 := by
  rcases ends.cases with rfl | ⟨tail, rfl | rfl⟩ <;> rfl

/-- The text of a number that no suffix follows is cut as one segment. -/
theorem cuts_number {first : Char} {tail rest : List Char} (plain : IsPlain first)
    (body : Rule.numberBody (first :: tail ++ rest) = (first :: tail).length)
    (ended : Rule.run Rule.isSuffixChar rest = 0) :
    Cuts (first :: tail ++ rest) [⟨.number, first :: tail, 0⟩] rest := by
  have applies : Rule.span .number (first :: tail ++ rest) = (first :: tail).length := by
    simp only [Rule.span, Rule.numberSpan, body]
    rw [if_pos (by simp), List.drop_left, ended, Nat.add_zero]
  exact cuts_first delimiterRules rfl (by decide) (span_of_isPlain plain _) applies (by simp)

/-- The decimal text of an integer is cut as one segment. -/
theorem cuts_sourceInteger (units : Int) {rest : List Char} (ends : Ends rest) :
    Cuts (sourceInteger units ++ rest) [⟨.number, sourceInteger units, 0⟩] rest := by
  obtain ⟨first, tail, written⟩ := List.exists_cons_of_ne_nil (toString_ne_nil units)
  have body := numberBody_sourceInteger units ends
  rw [sourceInteger, written] at body ⊢
  exact cuts_number (isPlain_of_mem_sourceInteger (written ▸ List.mem_cons_self)) body
    (run_isSuffixChar_of_ends ends)

/-- The body of a source string ends at its closing quote. -/
theorem stringBody_sourceEscape (text rest : List Char) (plain : ∀ char ∈ text, char ≠ '\\') :
    Rule.stringBody (text.flatMap sourceEscape ++ '"' :: rest) =
      some ((text.flatMap sourceEscape).length + 1) := by
  induction text with
  | nil => rfl
  | cons char text inductionHypothesis =>
    have later :=
      inductionHypothesis fun other inside => plain other (List.mem_cons_of_mem _ inside)
    rw [List.flatMap_cons, List.append_assoc]
    by_cases quote : char = '"'
    · subst quote
      change (Rule.stringBody (text.flatMap sourceEscape ++ '"' :: rest)).map (· + 2) = _
      rw [later, List.length_append]
      simp [sourceEscape]
      omega
    · have backslash := plain char List.mem_cons_self
      have ordinary (tail : List Char) :
          Rule.stringBody (char :: tail) = (Rule.stringBody tail).map (· + 1) := by
        simp [Rule.stringBody, backslash]
      rw [sourceEscape, if_neg quote, List.singleton_append, ordinary, later, List.singleton_append]
      rfl

/-- A backslash before a quote is dropped, and the other characters stay. -/
theorem unescapeQuotes_sourceEscape (text rest : List Char) (plain : ∀ char ∈ text, char ≠ '\\') :
    unescapeQuotes (text.flatMap sourceEscape ++ rest) = text ++ unescapeQuotes rest := by
  induction text with
  | nil => rfl
  | cons char text inductionHypothesis =>
    have later :=
      inductionHypothesis fun other inside => plain other (List.mem_cons_of_mem _ inside)
    rw [List.flatMap_cons, List.append_assoc, List.cons_append, ← later]
    by_cases quote : char = '"'
    · subst quote
      rfl
    · have backslash := plain char List.mem_cons_self
      rw [sourceEscape, if_neg quote, List.singleton_append]
      simp [unescapeQuotes, backslash]

/-- A body that ends at its closing quote is cut as one segment with its quotes. -/
theorem cuts_quoted {body rest : List Char}
    (ends : Rule.stringBody (body ++ '"' :: rest) = some (body.length + 1)) :
    Cuts ('"' :: body ++ ['"'] ++ rest) [⟨.string, '"' :: body ++ ['"'], 0⟩] rest := by
  have written : '"' :: body ++ ['"'] ++ rest = '"' :: (body ++ '"' :: rest) := by simp
  have quote : IsPlain '"' := ⟨by decide, by decide, by decide, rfl, by decide⟩
  have refused :
      ∀ rule ∈ delimiterRules ++ [.number], rule.span ('"' :: body ++ ['"'] ++ rest) = 0 := by
    rw [written, List.forall_mem_append]
    exact ⟨span_of_isPlain quote _, by simp [Rule.span]; rfl⟩
  have applies : Rule.span .string ('"' :: body ++ ['"'] ++ rest) =
      ('"' :: body ++ ['"']).length := by
    rw [written]
    simp [Rule.span, Rule.stringSpan, ends]
  exact cuts_first (delimiterRules ++ [.number]) rfl (by decide) refused applies (by simp)

/-- Blanks in front of a visible character are cut as one segment. -/
theorem cuts_blanks {blanks tail : List Char} {first : Char} (filled : blanks ≠ [])
    (blank : ∀ char ∈ blanks, isBlank char = true) (visible : isBlank first = false) :
    Cuts (blanks ++ first :: tail) [⟨.blank, blanks, 0⟩] (first :: tail) := by
  have applies : Rule.span .blank (blanks ++ first :: tail) = blanks.length :=
    run_append isBlank blanks (first :: tail) blank (by simpa using visible)
  have refused : ∀ rule ∈ [Rule.openList, .close, .openQuote],
      rule.span (blanks ++ first :: tail) = 0 := by
    obtain ⟨char, more, rfl⟩ := List.exists_cons_of_ne_nil filled
    have other (mark : Char) (shown : isBlank mark = false) : char ≠ mark := by
      rintro rfl
      rw [blank char List.mem_cons_self] at shown
      cases shown
    have opening := other '(' rfl
    have closing := other ')' rfl
    have quote := other '\x27' rfl
    cases more <;> simp [Rule.span, Rule.single, Rule.openQuoteSpan, opening, closing, quote]
  exact cuts_first [.openList, .close, .openQuote] rfl (by decide) refused applies
    (List.length_pos_iff.mpr filled)

/-- A space is cut before anything that is not blank. -/
theorem cuts_space {first : Char} (tail : List Char) (visible : isBlank first = false) :
    Cuts (' ' :: first :: tail) [⟨.blank, [' '], 0⟩] (first :: tail) :=
  cuts_blanks (List.cons_ne_nil _ _) (List.forall_mem_singleton.mpr rfl) visible

/-- An opening parenthesis is cut with the quote before it. -/
theorem cuts_opening (quoted : Bool) (rest : List Char) :
    Cuts ((Assembly.opening quoted).lexeme ++ rest) [Assembly.opening quoted] rest := by
  cases quoted with
  | false => exact cuts_first [] rfl (by decide) (by simp) rfl (by decide)
  | true =>
    have refused : ∀ rule ∈ [Rule.openList, .close], rule.span (['\x27', '('] ++ rest) = 0 := by
      simp [Rule.span, Rule.single]
    exact cuts_first [.openList, .close] rfl (by decide) refused rfl (by decide)

/-- A closing parenthesis is cut alone. -/
theorem cuts_closing (rest : List Char) : Cuts (')' :: rest) [⟨.close, [')'], 0⟩] rest := by
  have refused : ∀ rule ∈ [Rule.openList], rule.span ([')'] ++ rest) = 0 := by
    simp [Rule.span, Rule.single]
  exact cuts_first [.openList] rfl (by decide) refused rfl (by decide)

end Token

end Reduct
