import Mathlib.Tactic
import Reduct.Proofs.AsciiLiteral
import Reduct.Proofs.Grammar
import Reduct.Proofs.Scanning
/-! This file says which number tokens have a value. The lexical rule takes the digits of all
scripts, and values are read from ASCII alone; so a token is reported exactly when it has a digit of
another script. -/

namespace Reduct

namespace Token

open Reduct.Text Number

namespace Regex

variable {test : Char → Bool} {chars rest : List Char}

theorem mem_rests_one :
    rest ∈ (one test).rests chars ↔ ∃ char, test char = true ∧ chars = char :: rest := by
  cases chars with
  | nil => simp [rests]
  | cons first others =>
      rw [rests]
      split_ifs with passes
      · rw [List.mem_singleton]
        constructor
        · rintro rfl
          exact ⟨first, passes, rfl⟩
        · rintro ⟨char, -, same⟩
          exact (List.cons.inj same).2.symm
      · constructor
        · exact fun inside => absurd inside List.not_mem_nil
        · rintro ⟨char, passed, same⟩
          rw [(List.cons.inj same).1] at passes
          exact absurd passed passes

theorem mem_rests_both {first second : Regex} :
    rest ∈ (both first second).rests chars ↔
      ∃ middle ∈ first.rests chars, rest ∈ second.rests middle := by
  rw [rests, List.mem_flatMap]

theorem mem_rests_maybe {inner : Regex} :
    rest ∈ (maybe inner).rests chars ↔ rest ∈ inner.rests chars ∨ rest = chars := by
  rw [rests, List.mem_append, List.mem_singleton]

/-- A repetition takes characters that pass the test. -/
theorem exists_of_mem_rests_many_one (leaves : rest ∈ (many (one test)).rests chars) :
    ∃ taken, chars = taken ++ rest ∧ ∀ char ∈ taken, test char = true := by
  induction chars with
  | nil =>
      rw [rests_many_one_nil, List.mem_singleton] at leaves
      exact ⟨[], leaves.symm, List.forall_mem_nil _⟩
  | cons first others inductionHypothesis =>
      rw [rests_many_one_cons] at leaves
      split_ifs at leaves with passes
      · rw [List.mem_append, List.mem_singleton] at leaves
        obtain inside | rfl := leaves
        · obtain ⟨taken, rfl, all⟩ := inductionHypothesis inside
          exact ⟨first :: taken, rfl, List.forall_mem_cons.mpr ⟨passes, all⟩⟩
        · exact ⟨[], rfl, List.forall_mem_nil _⟩
      · rw [List.mem_singleton] at leaves
        exact ⟨[], leaves.symm, List.forall_mem_nil _⟩

theorem exists_of_mem_rests_several_one (leaves : rest ∈ (several (one test)).rests chars) :
    ∃ taken, chars = taken ++ rest ∧ taken ≠ [] ∧ ∀ char ∈ taken, test char = true := by
  rw [several, mem_rests_both] at leaves
  obtain ⟨middle, first, later⟩ := leaves
  obtain ⟨char, passes, rfl⟩ := mem_rests_one.mp first
  obtain ⟨taken, rfl, all⟩ := exists_of_mem_rests_many_one later
  exact ⟨char :: taken, rfl, List.cons_ne_nil _ _, List.forall_mem_cons.mpr ⟨passes, all⟩⟩

end Regex

def AllDecimal (chars : List Char) : Prop :=
  ∀ char ∈ chars, isDecimalDigit char = true

/-- Digits with a point among them or before them. -/
inductive IsSignificand : List Char → Prop
  | whole {digits : List Char} (filled : digits ≠ []) (all : AllDecimal digits) :
      IsSignificand digits
  | point {whole fraction : List Char} (wholeDigits : AllDecimal whole) (filled : fraction ≠ [])
      (fractionDigits : AllDecimal fraction) : IsSignificand (whole ++ '.' :: fraction)

/-- A mark, a sign that may be absent, and digits. -/
inductive IsExponent : List Char → Prop
  | mk {mark : Char} {sign digits : List Char} (marked : lowerAscii mark = 'e')
      (signed : sign ∈ [[], ['+'], ['-']]) (filled : digits ≠ []) (all : AllDecimal digits) :
      IsExponent (mark :: (sign ++ digits))

/-- A number without a suffix: digits of a radix after its mark, or a decimal. -/
inductive IsNumeral : List Char → Prop
  | radix {letter mark : Char} {radix : Nat} {digits : List Char}
      (listed : (mark, radix) ∈ radixMarks) (marked : lowerAscii letter = mark)
      (filled : digits ≠ []) (all : AllDigits radix digits) : IsNumeral ('0' :: letter :: digits)
  | decimal {sign significand exponent : List Char} (signed : sign ∈ [[], ['-']])
      (isSignificand : IsSignificand significand)
      (isExponent : exponent = [] ∨ IsExponent exponent) :
      IsNumeral (sign ++ (significand ++ exponent))

namespace Regex

variable {chars rest : List Char}

theorem mem_rests_char {mark : Char} :
    rest ∈ (char mark).rests chars ↔ chars = mark :: rest := by
  simp [char, mem_rests_one]

/-- The expression of a radix takes digits of the radix after its mark. -/
theorem isNumeral_of_radix {mark : Char} {base : Nat} (listed : (mark, base) ∈ radixMarks)
    (whole : [] ∈ (radix mark base).rests chars) : IsNumeral chars := by
  rw [radix, mem_rests_both] at whole
  obtain ⟨behind, zero, later⟩ := whole
  obtain rfl := mem_rests_char.mp zero
  obtain ⟨middle, letter, digits⟩ := mem_rests_both.mp later
  obtain ⟨letter, marked, rfl⟩ := mem_rests_one.mp letter
  obtain ⟨taken, rfl, filled, all⟩ := exists_of_mem_rests_several_one digits
  rw [List.append_nil]
  exact .radix listed (beq_iff_eq.mp marked) filled all

theorem exists_significand (leaves : rest ∈ digits.rests chars) :
    ∃ significand, IsSignificand significand ∧ chars = significand ++ rest := by
  rw [digits, mem_rests_both] at leaves
  obtain ⟨behind, before, later⟩ := leaves
  obtain ⟨whole, rfl, wholeDigits⟩ := exists_of_mem_rests_many_one before
  obtain ⟨middle, point, after⟩ := mem_rests_both.mp later
  obtain ⟨fraction, rfl, filled, fractionDigits⟩ := exists_of_mem_rests_several_one after
  obtain pointed | rfl := mem_rests_maybe.mp point
  · obtain rfl := mem_rests_char.mp pointed
    exact ⟨whole ++ '.' :: fraction, .point wholeDigits filled fractionDigits, by simp⟩
  · refine ⟨whole ++ fraction, .whole ?_ ?_, by simp⟩
    · simp [filled]
    · exact List.forall_mem_append.mpr ⟨wholeDigits, fractionDigits⟩

theorem isExponent_of_exponent (whole : [] ∈ exponent.rests chars) : IsExponent chars := by
  rw [exponent, mem_rests_both] at whole
  obtain ⟨behind, letter, later⟩ := whole
  obtain ⟨mark, marked, rfl⟩ := mem_rests_one.mp letter
  obtain ⟨middle, before, after⟩ := mem_rests_both.mp later
  obtain ⟨digits, rfl, filled, all⟩ := exists_of_mem_rests_several_one after
  rw [List.append_nil] at before
  obtain signed | rfl := mem_rests_maybe.mp before
  · obtain ⟨sign, either, rfl⟩ := mem_rests_one.mp signed
    have listed : [sign] ∈ [[], ['+'], ['-']] := by simpa using either
    show IsExponent (mark :: ([sign] ++ digits))
    exact .mk (beq_iff_eq.mp marked) listed filled all
  · show IsExponent (mark :: ([] ++ digits))
    exact .mk (beq_iff_eq.mp marked) (by simp) filled all

/-- What the expression of a number takes whole is a numeral. -/
theorem isNumeral_of_numeral (whole : [] ∈ numeral.rests chars) : IsNumeral chars := by
  rw [numeral, rests, rests, rests, List.mem_append, List.mem_append, List.mem_append] at whole
  obtain binary | octal | hexadecimal | decimal := whole
  · exact isNumeral_of_radix (by decide) binary
  · exact isNumeral_of_radix (by decide) octal
  · exact isNumeral_of_radix (by decide) hexadecimal
  · obtain ⟨behind, signed, power⟩ := mem_rests_both.mp decimal
    obtain ⟨middle, sign, digits⟩ := mem_rests_both.mp signed
    obtain ⟨significand, isSignificand, rfl⟩ := exists_significand digits
    have isExponent : behind = [] ∨ IsExponent behind := by
      obtain power | ended := mem_rests_maybe.mp power
      · exact .inr (isExponent_of_exponent power)
      · exact .inl ended.symm
    obtain minus | rfl := mem_rests_maybe.mp sign
    · obtain rfl := mem_rests_char.mp minus
      show IsNumeral (['-'] ++ (significand ++ behind))
      exact .decimal (by simp) isSignificand isExponent
    · show IsNumeral ([] ++ (significand ++ behind))
      exact .decimal (by simp) isSignificand isExponent

end Regex

/-- A number without a suffix is a numeral. -/
theorem isNumeral_of_numberBody {chars : List Char} (filled : chars ≠ [])
    (whole : Rule.numberBody chars = chars.length) : IsNumeral chars := by
  have matched : Regex.numeral.first? chars = some [] := by
    rw [Regex.first?_numeral, Regex.cut?, whole, if_pos (List.length_pos_iff.mpr filled),
      List.drop_length]
  exact Regex.isNumeral_of_numeral (List.mem_of_head? matched)

/-- The digits of all scripts that are ASCII characters. -/
theorem AllDecimal.allDigits {chars : List Char} (all : AllDecimal chars)
    (ascii : IsAscii chars) : AllDigits 10 chars := by
  intro char inside
  have digit := all char inside
  rw [isDecimalDigit, if_pos (ascii char inside)] at digit
  exact digit

/-- The exponent of a number that is ASCII is one in small letters. -/
theorem isPower_map_lowerAscii {chars : List Char} (isExponent : chars = [] ∨ IsExponent chars)
    (ascii : IsAscii chars) : IsPower (chars.map lowerAscii) := by
  obtain rfl | ⟨marked, signed, filled, all⟩ := isExponent
  · exact .inl rfl
  · rename_i mark sign digits
    have digits := all.allDigits (isAscii_append.mp (isAscii_cons.mp ascii).2).2
    have unsigned : sign.map lowerAscii = sign := by
      simp only [List.mem_cons, List.not_mem_nil, or_false] at signed
      rcases signed with rfl | rfl | rfl <;> rfl
    refine .inr ⟨'e', _, congrArg (· :: _) marked, .inl rfl, ?_⟩
    rw [List.map_append, unsigned, map_lowerAscii_of_allDigits digits, isSome_exponent?_iff]
    exact ⟨sign, _, rfl, signed, filled, digits⟩

/-- Digits with a point that are ASCII are a decimal in front of any exponent. -/
theorem isSome_unsignedDecimal?_append {significand tail : List Char}
    (isSignificand : IsSignificand significand) (ascii : IsAscii significand)
    (power : IsPower tail) : (unsignedDecimal? (significand ++ tail)).isSome = true := by
  obtain ⟨stop, point⟩ := power.head?
  cases isSignificand with
  | whole filled all =>
      obtain ⟨taken, left⟩ := takeWhile_dropWhile_digits (all.allDigits ascii) tail stop
      rw [isSome_unsignedDecimal?_plain (by rw [left]; exact point), taken, left]
      exact ⟨filled, power⟩
  | @point whole fraction wholeDigits filled fractionDigits =>
      obtain ⟨wholeAscii, fractionAscii⟩ := isAscii_append.mp ascii
      obtain ⟨-, fractionAscii⟩ := isAscii_cons.mp fractionAscii
      obtain ⟨-, left⟩ := takeWhile_dropWhile_digits (wholeDigits.allDigits wholeAscii)
        ('.' :: (fraction ++ tail)) (by rintro char ⟨⟩; rfl)
      obtain ⟨fractionTaken, fractionLeft⟩ :=
        takeWhile_dropWhile_digits (fractionDigits.allDigits fractionAscii) tail stop
      rw [List.append_assoc, List.cons_append, isSome_unsignedDecimal?_point left, fractionTaken,
        fractionLeft]
      exact ⟨by simp [filled], power⟩

theorem map_lowerAscii_of_isSignificand {chars : List Char} (isSignificand : IsSignificand chars)
    (ascii : IsAscii chars) : chars.map lowerAscii = chars := by
  cases isSignificand with
  | whole filled all => exact map_lowerAscii_of_allDigits (all.allDigits ascii)
  | point wholeDigits filled fractionDigits =>
      obtain ⟨wholeAscii, fractionAscii⟩ := isAscii_append.mp ascii
      obtain ⟨-, fractionAscii⟩ := isAscii_cons.mp fractionAscii
      rw [List.map_append, List.map_cons,
        map_lowerAscii_of_allDigits (wholeDigits.allDigits wholeAscii),
        map_lowerAscii_of_allDigits (fractionDigits.allDigits fractionAscii)]
      rfl

/-- A numeral that is ASCII has a value. -/
theorem isSome_literal?_of_isNumeral {chars : List Char} (numeral : IsNumeral chars)
    (ascii : IsAscii chars) : (literal? chars).isSome = true := by
  cases numeral with
  | @radix letter mark radix digits listed marked filled all =>
      have read : radixMark? (('0' :: letter :: digits).map lowerAscii) =
          some (radix, digits.map lowerAscii) := by
        rw [radixMark?_eq_some_iff]
        exact ⟨mark, listed, by rw [← marked]; rfl⟩
      rw [literal?, read]
      apply (isSome_accumulate?_iff radix _).mpr
      intro char inside
      obtain ⟨digit, member, rfl⟩ := List.mem_map.mp inside
      rw [digit?_lowerAscii]
      exact all digit member
  | @decimal sign significand exponent signed isSignificand isExponent =>
      obtain ⟨-, bodyAscii⟩ := isAscii_append.mp ascii
      obtain ⟨significandAscii, exponentAscii⟩ := isAscii_append.mp bodyAscii
      have power := isPower_map_lowerAscii isExponent exponentAscii
      have lowered : (sign ++ (significand ++ exponent)).map lowerAscii =
          sign ++ (significand ++ exponent.map lowerAscii) := by
        rw [List.map_append, List.map_append,
          map_lowerAscii_of_isSignificand isSignificand significandAscii]
        congr 1
        simp only [List.mem_cons, List.not_mem_nil, or_false] at signed
        rcases signed with rfl | rfl <;> rfl
      obtain ⟨unmarked, accepted⟩ := isSome_decimal?_append signed
        (isSome_unsignedDecimal?_append isSignificand significandAscii power)
      rw [literal?, lowered, unmarked]
      exact accepted

/-- A sign that may be absent is ASCII. -/
theorem isAscii_sign {sign : List Char} (signed : sign ∈ [[], ['+'], ['-']]) : IsAscii sign := by
  simp only [List.mem_cons, List.not_mem_nil, or_false] at signed
  rcases signed with rfl | rfl | rfl <;> simp [IsAscii]

/-- No character is a digit of another script than ASCII. -/
def NoForeignDigit (chars : List Char) : Prop :=
  ∀ char ∈ chars, isDecimalDigit char = true → char.toNat < 128

theorem noForeignDigit_append {first second : List Char} :
    NoForeignDigit (first ++ second) ↔ NoForeignDigit first ∧ NoForeignDigit second :=
  List.forall_mem_append

theorem noForeignDigit_cons {char : Char} {chars : List Char} :
    NoForeignDigit (char :: chars) ↔
      (isDecimalDigit char = true → char.toNat < 128) ∧ NoForeignDigit chars :=
  List.forall_mem_cons

theorem AllDecimal.isAscii {chars : List Char} (all : AllDecimal chars)
    (plain : NoForeignDigit chars) : IsAscii chars :=
  fun char inside => plain char inside (all char inside)

theorem IsSignificand.isAscii {chars : List Char} (isSignificand : IsSignificand chars)
    (plain : NoForeignDigit chars) : IsAscii chars := by
  cases isSignificand with
  | whole filled all => exact all.isAscii plain
  | point wholeDigits filled fractionDigits =>
      obtain ⟨wholePlain, rest⟩ := noForeignDigit_append.mp plain
      obtain ⟨-, fractionPlain⟩ := noForeignDigit_cons.mp rest
      rw [isAscii_append, isAscii_cons]
      exact ⟨wholeDigits.isAscii wholePlain, by decide, fractionDigits.isAscii fractionPlain⟩

theorem IsExponent.isAscii {chars : List Char} (isExponent : IsExponent chars)
    (plain : NoForeignDigit chars) : IsAscii chars := by
  obtain ⟨marked, signed, filled, all⟩ := isExponent
  obtain ⟨-, rest⟩ := noForeignDigit_cons.mp plain
  obtain ⟨-, digitsPlain⟩ := noForeignDigit_append.mp rest
  rw [isAscii_cons, isAscii_append, ← toNat_lowerAscii_lt_iff, marked]
  exact ⟨by decide, isAscii_sign signed, all.isAscii digitsPlain⟩

/-- Only the digits of other scripts keep a numeral from being ASCII. -/
theorem IsNumeral.isAscii {chars : List Char} (numeral : IsNumeral chars)
    (plain : NoForeignDigit chars) : IsAscii chars := by
  cases numeral with
  | radix listed marked filled all =>
      have letter := toNat_lt_of_mem_radixMarks listed
      rw [← marked, toNat_lowerAscii_lt_iff] at letter
      rw [isAscii_cons, isAscii_cons]
      exact ⟨by decide, letter, all.isAscii⟩
  | decimal signed isSignificand isExponent =>
      obtain ⟨-, rest⟩ := noForeignDigit_append.mp plain
      obtain ⟨significandPlain, exponentPlain⟩ := noForeignDigit_append.mp rest
      rw [isAscii_append, isAscii_append]
      refine ⟨isAscii_sign ?_, isSignificand.isAscii significandPlain, ?_⟩
      · simp only [List.mem_cons, List.not_mem_nil, or_false] at signed ⊢
        tauto
      · obtain rfl | isExponent := isExponent
        · exact isAscii_nil
        · exact isExponent.isAscii exponentPlain

/-- A numeral has no value exactly when it has a digit of another script than ASCII. -/
theorem IsNumeral.literal?_eq_none_iff {chars : List Char} (numeral : IsNumeral chars) :
    literal? chars = none ↔ ∃ char ∈ chars, isDecimalDigit char = true ∧ 128 ≤ char.toNat := by
  constructor
  · intro failed
    by_contra absent
    have plain : NoForeignDigit chars := by
      intro char inside digit
      by_contra high
      exact absent ⟨char, inside, digit, not_lt.mp high⟩
    have accepted := isSome_literal?_of_isNumeral numeral (numeral.isAscii plain)
    rw [failed] at accepted
    cases accepted
  · rintro ⟨char, inside, -, high⟩
    rw [← Option.not_isSome_iff_eq_none]
    intro accepted
    exact absurd (isAscii_of_literal? accepted char inside) (not_lt.mpr high)

/-- Every piece takes some characters of the text. -/
theorem Pieces.lexeme_of_mem {before chars rest : List Char} {pieces : List Piece}
    (cut : Pieces before chars pieces rest) {piece : Piece} (member : piece ∈ pieces) :
    piece.lexeme ≠ [] ∧ piece.lexeme ⊆ chars := by
  induction cut with
  | done before rest => cases member
  | @next before chars lexeme after mark later rest rule pieces taken marked _
      inductionHypothesis =>
      rw [taken.split]
      rcases List.mem_cons.mp member with rfl | member
      · exact ⟨taken.nonempty, List.subset_append_left _ _⟩
      · obtain ⟨filled, inside⟩ := inductionHypothesis member
        rw [marked.split]
        exact ⟨filled, fun char lexical => by simp [inside lexical]⟩

theorem clean_subset (chars : List Char) : clean chars ⊆ chars := by
  intro char inside
  unfold clean at inside
  rw [trimEnd, List.mem_reverse] at inside
  have kept := List.mem_reverse.mp ((List.dropWhile_suffix _).mem inside)
  have body := (List.mem_filter.mp kept).1
  cases chars with
  | nil => exact body
  | cons first rest =>
      dsimp only at body
      split_ifs at body
      · exact .tail _ body
      · exact body

/-- Every token is that of a piece. -/
theorem exists_isToken_of_mem {pieces : List Piece} {tokens : List Token}
    (made : List.Forall₂ Piece.IsToken pieces tokens) {token : Token} (member : token ∈ tokens) :
    ∃ piece ∈ pieces, piece.IsToken token := by
  induction made with
  | nil => cases member
  | cons first _ inductionHypothesis =>
      rcases List.mem_cons.mp member with rfl | member
      · exact ⟨_, .head _, first⟩
      · obtain ⟨piece, inside, isToken⟩ := inductionHypothesis member
        exact ⟨piece, .tail _ inside, isToken⟩

/-- A token of a source has the lexeme of a piece, which is not empty and stands in the source. -/
theorem exists_piece_of_mem_scan {source : String} {tokens : List Token}
    (scanned : scan source = .ok tokens) {token : Token} (member : token ∈ tokens) :
    ∃ piece : Piece, piece.IsToken token ∧ piece.lexeme ≠ [] ∧ piece.lexeme ⊆ source.toList := by
  obtain ⟨pieces, rest, found, cut, -⟩ :=
    exists_pieces (clean source.toList).length [] (clean source.toList) le_rfl
  obtain ⟨made, read, isToken⟩ := tokensFrom_pieces cut
  change tokensFrom Position.start _ _ = _ at read
  have same : made = tokens := by
    simp only [scan, found, read] at scanned
    split_ifs at scanned
    exact Except.ok.inj scanned
  subst same
  obtain ⟨piece, seen, isToken⟩ := exists_isToken_of_mem isToken member
  obtain ⟨filled, inside⟩ := cut.lexeme_of_mem (List.mem_of_mem_filter seen)
  exact ⟨piece, isToken, filled, fun char lexical => clean_subset _ (inside lexical)⟩

/-- A scan fails with a lexical error alone. -/
theorem exists_lex_of_scan {source : String} {error : Error}
    (failed : scan source = .error error) :
    ∃ line column text, error = .lex line column text := by
  simp only [scan] at failed
  split_ifs at failed
  exact ⟨_, _, _, (Except.error.inj failed).symm⟩

/-- A number token is a numeral that stands in the source. -/
theorem isNumeral_of_mem_scan {source : String} {tokens : List Token}
    (scanned : scan source = .ok tokens) {token : Token} (member : token ∈ tokens)
    (number : token.kind = .number) :
    IsNumeral token.lexeme.toList ∧ token.lexeme.toList ⊆ source.toList := by
  obtain ⟨⟨before, rule, lexeme, mark⟩, isToken, filled, inside⟩ :=
    exists_piece_of_mem_scan scanned member
  have kind := isToken.kind
  rw [number] at kind
  cases rule with
  | number =>
      have text : token.lexeme.toList = lexeme := by
        rw [isToken.lexeme, if_neg (by simp), String.toList_ofList]
      have body : Rule.numberBody lexeme = lexeme.length := by
        by_contra suffixed
        rw [Segment.kind?, Piece.segment] at kind
        rw [if_neg suffixed] at kind
        cases kind
      rw [text]
      exact ⟨isNumeral_of_numberBody filled body, inside⟩
  | _ => cases kind

end Token

namespace Node

open Reduct.Text Token

theorem ofAtom_of_literal? {token : Token} {value : Float} (number : token.kind = .number)
    (read : Number.literal? token.lexeme.toList = some value) :
    ofAtom token = .ok (.number value) := by
  simp only [ofAtom, number, read]

theorem ofAtom_of_literal?_none {token : Token} (number : token.kind = .number)
    (failed : Number.literal? token.lexeme.toList = none) :
    ofAtom token = .error (.invalidNumber token.lexeme token.line token.column) := by
  simp only [ofAtom, number, failed]

/-- A leaf that is reported as no number is a number token. -/
theorem kind_of_ofAtom {token : Token} {literal : String} {line column : Nat}
    (reported : ofAtom token = .error (.invalidNumber literal line column)) :
    token.kind = .number := by
  unfold ofAtom at reported
  split at reported
  · assumption
  · cases reported
  · split at reported <;> cases reported
  · cases reported

/-- An error of assembly that reports a number is that of one of the tokens. -/
theorem exists_ofAtom_of_ofTokens {tokens : List Token} {literal : String} {line column : Nat}
    (reported : ofTokens tokens = .error (.invalidNumber literal line column)) :
    ∃ token ∈ tokens, ofAtom token = .error (.invalidNumber literal line column) := by
  have verdict := verdict_ofTokens tokens
  rw [reported] at verdict
  cases verdict with
  | offence first =>
      obtain ⟨before, token, after, rfl, -, offends⟩ := first
      cases offends with
      | atom _ _ undecoded => exact ⟨token, by simp, undecoded⟩

/-- The number tokens of a source that are reported are those with a digit of another script than
ASCII, and all others have a value. So no number of a source in ASCII is reported. -/
theorem number_tokens_reported_iff (source : String) :
    (∀ tokens, Token.scan source = .ok tokens → ∀ token ∈ tokens, token.kind = .number →
      (ofAtom token = .error (.invalidNumber token.lexeme token.line token.column) ↔
        ∃ char ∈ token.lexeme.toList, isDecimalDigit char = true ∧ 128 ≤ char.toNat) ∧
      ((∃ value, ofAtom token = .ok (.number value)) ↔
        ¬ ∃ char ∈ token.lexeme.toList, isDecimalDigit char = true ∧ 128 ≤ char.toNat)) ∧
    ((∀ char ∈ source.toList, char.toNat < 128) →
      ∀ literal line column, parse source ≠ .error (.invalidNumber literal line column)) := by
  constructor
  · intro tokens scanned token member number
    obtain ⟨numeral, -⟩ := isNumeral_of_mem_scan scanned member number
    rw [← numeral.literal?_eq_none_iff]
    cases read : Number.literal? token.lexeme.toList with
    | none =>
        rw [ofAtom_of_literal?_none number read]
        simp
    | some value =>
        rw [ofAtom_of_literal? number read]
        simp
  · intro ascii literal line column reported
    cases scanned : Token.scan source with
    | error error =>
        obtain ⟨place, offset, text, rfl⟩ := exists_lex_of_scan scanned
        rw [parse, scanned] at reported
        cases reported
    | ok tokens =>
        have assembled : ofTokens tokens = .error (.invalidNumber literal line column) := by
          rw [parse, scanned] at reported
          exact reported
        obtain ⟨token, member, failed⟩ := exists_ofAtom_of_ofTokens assembled
        have number := kind_of_ofAtom failed
        obtain ⟨numeral, inside⟩ := isNumeral_of_mem_scan scanned member number
        obtain ⟨value, read⟩ := Option.isSome_iff_exists.mp
          (isSome_literal?_of_isNumeral numeral fun char lexical => ascii char (inside lexical))
        rw [ofAtom_of_literal? number read] at failed
        cases failed

/-- A hexadecimal number and a decimal with a sign, a point and an exponent. -/
def mixedNumbers : List Token :=
  [⟨.number, "0x1F", 1, 1, false⟩, ⟨.number, "-.5E+3", 1, 6, false⟩]

/-- Both numbers have a value, and nothing is reported. -/
theorem mixedNumbers_parsed :
    Token.scan "0x1F -.5E+3" = .ok mixedNumbers ∧
      (∀ token ∈ mixedNumbers, token.kind = .number ∧ ∃ value, ofAtom token = .ok (.number value)) ∧
      ∀ literal line column, parse "0x1F -.5E+3" ≠ .error (.invalidNumber literal line column) := by
  have scanned : Token.scan "0x1F -.5E+3" = .ok mixedNumbers := rfl
  have ascii : ∀ char ∈ "0x1F -.5E+3".toList, char.toNat < 128 := by simp
  have numbers : ∀ token ∈ mixedNumbers, token.kind = .number := by
    simp [mixedNumbers]
  have plain : ∀ token ∈ mixedNumbers, ∀ char ∈ token.lexeme.toList, char.toNat < 128 := by
    simp [mixedNumbers]
  refine ⟨scanned, fun token member => ?_, (number_tokens_reported_iff _).2 ascii⟩
  obtain ⟨-, valued⟩ :=
    (number_tokens_reported_iff _).1 _ scanned token member (numbers token member)
  refine ⟨numbers token member, valued.mpr ?_⟩
  rintro ⟨char, inside, -, high⟩
  exact absurd (plain token member char inside) (not_lt.mpr high)

end Node

end Reduct
