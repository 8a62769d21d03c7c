import Mathlib.Tactic
import Reduct.Node.Text
import Reduct.Proofs.DigitRounding
import Reduct.Proofs.NumberToken
import Reduct.Proofs.SourceText

namespace Reduct

namespace Number

open Float.Model Rounding Packing Reduct.Text

/-- The radixes are powers of two. -/
theorem exists_bits_of_mem_radixMarks {mark : Char} {radix : Nat}
    (listed : (mark, radix) ∈ radixMarks) : ∃ bits < 53, radix = 2 ^ bits := by
  simp only [radixMarks, List.mem_cons, Prod.mk.injEq, List.not_mem_nil, or_false] at listed
  rcases listed with ⟨-, rfl⟩ | ⟨-, rfl⟩ | ⟨-, rfl⟩
  · exact ⟨1, by decide, rfl⟩
  · exact ⟨3, by decide, rfl⟩
  · exact ⟨4, by decide, rfl⟩

/-- The digits that reach `2 ^ 53` first stand half way between two doubles of which the lower one
is even, and the digits behind them are not zero. -/
def LosesHalf (radix : Nat) (digits : List Char) : Prop :=
  ∃ front back count, digits = front ++ back ∧ digits? radix front = some count ∧
    2 ^ 53 ≤ count ∧ count < radix * 2 ^ 53 ∧ IsLowerTie count (excess count) ∧
      digits? radix back ≠ some 0

/-- Rounding after every digit gives the nearest double, unless a half is lost on the way. -/
theorem stepwise_places_iff {bits : Nat} {digits : List Char} (all : AllDigits (2 ^ bits) digits) :
    stepwise (2 ^ bits) 0 (places (2 ^ bits) digits) =
        nearest (positional (2 ^ bits) 0 (places (2 ^ bits) digits)) ↔
      ¬ LosesHalf (2 ^ bits) digits := by
  constructor
  · rintro same ⟨front, back, count, rfl, value, reached, first, tie, more⟩
    obtain ⟨frontDigits, backDigits⟩ := allDigits_append.mp all
    rw [frontDigits.digits?_eq, Option.some_inj] at value
    rw [backDigits.digits?_eq, ne_eq, Option.some_inj] at more
    subst value
    rw [places_append] at same
    exact (stepwise_eq_nearest_iff bits _ _ ⟨reached, first⟩ backDigits.places_lt).mp same
      ⟨tie, more⟩
  · intro kept
    by_cases small : positional (2 ^ bits) 0 (places (2 ^ bits) digits) < 2 ^ 53
    · rw [stepwise_of_lt _ 0 (Nat.two_pow_pos bits) _ small, nearest_of_lt _ small]
    · obtain ⟨_, _, split, crosses⟩ := exists_crosses (2 ^ bits) 0 _ all.places_lt
        (by decide) (Nat.le_of_not_lt small)
      obtain ⟨front, back, rfl, rfl, rfl⟩ := List.map_eq_append_iff.mp split
      obtain ⟨frontDigits, backDigits⟩ := allDigits_append.mp all
      rw [places_append]
      refine (stepwise_eq_nearest_iff bits _ _ crosses backDigits.places_lt).mpr ?_
      rintro ⟨tie, more⟩
      refine kept ⟨front, back, _, rfl, frontDigits.digits?_eq, crosses.1, crosses.2,
        tie, ?_⟩
      rwa [backDigits.digits?_eq, ne_eq, Option.some_inj]

/-- No half is lost below `2 ^ 53`. -/
theorem not_losesHalf_of_lt {radix count : Nat} (positive : 0 < radix) {digits : List Char}
    (value : digits? radix digits = some count) (small : count < 2 ^ 53) :
    ¬ LosesHalf radix digits := by
  rintro ⟨front, back, reachedCount, rfl, reachedValue, reached, -⟩
  have all := allDigits_of_digits? value
  obtain ⟨frontDigits, backDigits⟩ := allDigits_append.mp all
  rw [all.digits?_eq, Option.some_inj, places_append, positional_append] at value
  rw [frontDigits.digits?_eq, Option.some_inj] at reachedValue
  have below := le_positional radix (positional radix 0 (places radix front)) positive
    (places radix back)
  omega

/-- A number below `2 ^ 63` is the same double as the total of its digits, unless a half is lost. -/
theorem ofNat_eq_accumulated_iff {bits count : Nat} (low : bits < 53) {digits : List Char}
    (all : AllDigits (2 ^ bits) digits) (value : digits? (2 ^ bits) digits = some count)
    (small : count < 2 ^ 63) :
    Float.ofNat count = accumulated (2 ^ bits) (places (2 ^ bits) digits) ↔
      ¬ LosesHalf (2 ^ bits) digits := by
  rw [all.digits?_eq, Option.some_inj] at value
  subst value
  rw [← stepwise_places_iff all, eq_comm]
  apply (isCount_accumulated bits low _ all.places_lt (by omega)).eq_iff
  exact (isNear_ofNat _).isCount (by omega)

theorem word64?_minus (radix : Nat) (digits : List Char) :
    word64? radix ('-' :: digits) =
      if digits.isEmpty then none
      else ((digits? radix digits).filter (· ≤ 2 ^ 63)).map fun value : Nat => -(value : Int) := by
  rw [word64?]
  cases (digits? radix digits).filter (· ≤ 2 ^ 63) <;> rfl

theorem word64?_unsigned (radix : Nat) {chars : List Char} (plus : chars.head? ≠ some '+')
    (minus : chars.head? ≠ some '-') :
    word64? radix chars =
      if chars.isEmpty then none
      else ((digits? radix chars).filter (· < 2 ^ 63)).map Int.ofNat := by
  unfold word64?
  split
  · exact absurd rfl minus
  · exact absurd rfl plus
  · rfl

/-- Digits are read when there are some and their number is in range. -/
theorem ranged_eq_some_iff (radix : Nat) (digits : List Char) (inRange : Nat → Bool)
    (convert : Nat → Int) (units : Int) :
    (if digits.isEmpty then none
      else ((digits? radix digits).filter inRange).map convert) = some units ↔
      digits ≠ [] ∧ ∃ count, digits? radix digits = some count ∧ inRange count = true ∧
        convert count = units := by
  rw [← List.isEmpty_eq_false_iff]
  cases digits.isEmpty with
  | true => simp
  | false =>
      rw [if_neg Bool.false_ne_true, Option.map_eq_some_iff]
      simp only [Option.filter_eq_some_iff, and_assoc, true_and]

/-- A word is digits after a sign that may be absent, and it lies in the signed range. -/
theorem word64?_eq_some_iff (radix : Nat) (chars : List Char) (units : Int) :
    word64? radix chars = some units ↔
      ∃ sign digits count, chars = sign ++ digits ∧ digits ≠ [] ∧
        digits? radix digits = some count ∧
        ((sign = [] ∨ sign = ['+']) ∧ count < 2 ^ 63 ∧ units = count ∨
          sign = ['-'] ∧ count ≤ 2 ^ 63 ∧ units = -(count : Int)) := by
  constructor
  · intro read
    by_cases minus : chars.head? = some '-'
    · obtain ⟨digits, rfl⟩ := List.head?_eq_some_iff.mp minus
      rw [word64?_minus, ranged_eq_some_iff] at read
      obtain ⟨filled, count, value, below, same⟩ := read
      exact ⟨['-'], digits, count, rfl, filled, value,
        .inr ⟨rfl, of_decide_eq_true below, same.symm⟩⟩
    · by_cases plus : chars.head? = some '+'
      · obtain ⟨digits, rfl⟩ := List.head?_eq_some_iff.mp plus
        obtain ⟨filled, count, value, below, same⟩ := (ranged_eq_some_iff _ _ _ _ _).mp read
        exact ⟨['+'], digits, count, rfl, filled, value,
          .inl ⟨.inr rfl, of_decide_eq_true below, same.symm⟩⟩
      · rw [word64?_unsigned radix plus minus, ranged_eq_some_iff] at read
        obtain ⟨filled, count, value, below, same⟩ := read
        exact ⟨[], chars, count, rfl, filled, value,
          .inl ⟨.inl rfl, of_decide_eq_true below, same.symm⟩⟩
  · rintro ⟨sign, digits, count, rfl, filled, value, ⟨rfl | rfl, below, rfl⟩ | ⟨rfl, below, rfl⟩⟩
    · have all := allDigits_of_digits? value
      rw [List.nil_append, word64?_unsigned radix (all.head?_ne rfl) (all.head?_ne rfl),
        ranged_eq_some_iff]
      exact ⟨filled, count, value, decide_eq_true below, rfl⟩
    · exact (ranged_eq_some_iff _ _ _ _ _).mpr ⟨filled, count, value, decide_eq_true below, rfl⟩
    · rw [List.singleton_append, word64?_minus, ranged_eq_some_iff]
      exact ⟨filled, count, value, decide_eq_true below, rfl⟩

/-- A sign and digits that make a word. -/
def IsSignedWord (radix : Nat) (chars : List Char) : Prop :=
  ∃ sign digits count, chars = sign :: digits ∧ digits ≠ [] ∧ digits? radix digits = some count ∧
    (sign = '+' ∧ count < 2 ^ 63 ∨ sign = '-' ∧ count ≤ 2 ^ 63)

/-- A text that is not all digits is a word exactly when it has a sign. -/
theorem isSignedWord_iff {radix : Nat} {chars : List Char}
    (other : ¬ (chars ≠ [] ∧ AllDigits radix chars)) :
    IsSignedWord radix chars ↔ (word64? radix chars).isSome = true := by
  rw [Option.isSome_iff_exists]
  simp only [word64?_eq_some_iff]
  constructor
  · rintro ⟨sign, digits, count, rfl, filled, value, ⟨rfl, below⟩ | ⟨rfl, below⟩⟩
    · exact ⟨count, ['+'], digits, count, rfl, filled, value, .inl ⟨.inr rfl, below, rfl⟩⟩
    · exact ⟨-count, ['-'], digits, count, rfl, filled, value, .inr ⟨rfl, below, rfl⟩⟩
  · rintro ⟨units, sign, digits, count, rfl, filled, value, ⟨rfl | rfl, below, -⟩ | ⟨rfl, below, -⟩⟩
    · exact absurd ⟨filled, allDigits_of_digits? value⟩ other
    · exact ⟨'+', digits, count, rfl, filled, value, .inl ⟨rfl, below⟩⟩
    · exact ⟨'-', digits, count, rfl, filled, value, .inr ⟨rfl, below⟩⟩

/-- An integer becomes a double that is a number. -/
theorem ofInt_ne_notANumber (units : Int) : Float.ofInt units ≠ notANumber := by
  cases units with
  | ofNat count => exact (isNear_ofNat count).isTotal.ne_notANumber
  | negSucc count =>
      intro undefined
      change -Float.ofNat (count + 1) = notANumber at undefined
      have unpacks : (Float.Model.pack (Float.ofNat (count + 1)).toModel.unpack.neg).unpack =
          .notANumber := congrArg (fun value : Float => value.toModel.unpack) undefined
      rcases (isNear_ofNat (count + 1)).isTotal with infinite | ⟨number, counted⟩
      · rw [infinite] at unpacks
        exact absurd ((unpack_pack_infinity _).symm.trans unpacks) (by simp)
      · have whole := integer?_neg _ _ counted.integer?
        rw [integer?_eq_some_iff] at whole
        change IsWhole (Float.Model.pack (Float.ofNat (count + 1)).toModel.unpack.neg).unpack _
          at whole
        rw [unpacks] at whole
        exact whole

end Number

namespace Text

/-- Trimming takes blanks off both ends. -/
theorem exists_blanks (chars : List Char) :
    ∃ before after, chars = before ++ trim chars ++ after ∧
      (∀ char ∈ before, isBlank char = true) ∧ ∀ char ∈ after, isBlank char = true := by
  refine ⟨chars.takeWhile isBlank, ((chars.dropWhile isBlank).reverse.takeWhile isBlank).reverse,
    ?_, fun char inside => List.mem_takeWhile_imp inside, fun char inside =>
      List.mem_takeWhile_imp (List.mem_reverse.mp inside)⟩
  rw [trim, trimEnd, List.append_assoc, ← List.reverse_append, List.takeWhile_append_dropWhile,
    List.reverse_reverse, List.takeWhile_append_dropWhile]

/-- Blanks behind a visible character are dropped. -/
theorem trimEnd_append {chars after : List Char} {last : Char} (visible : isBlank last = false)
    (blank : ∀ char ∈ after, isBlank char = true) :
    trimEnd (chars ++ [last] ++ after) = chars ++ [last] := by
  rw [trimEnd, List.reverse_append, List.dropWhile_append_of_pos (by simpa using blank),
    List.reverse_append, List.reverse_singleton, List.singleton_append,
    List.dropWhile_cons_of_neg (by simp [visible]), List.reverse_cons, List.reverse_reverse]

/-- The characters from the digit zero to the small letter z. -/
def IsAlphanumeric (chars : List Char) : Prop :=
  ∀ char ∈ chars, 48 ≤ char.toNat ∧ char.toNat ≤ 122

theorem AllDigits.isAlphanumeric {radix : Nat} {chars : List Char}
    (digits : AllDigits radix chars) : IsAlphanumeric chars :=
  fun char inside => toNat_of_isSome_digit? (digits char inside)

theorem IsAlphanumeric.of_lowered {chars : List Char}
    (lowered : IsAlphanumeric (chars.map lowerAscii)) : IsAlphanumeric chars := by
  intro char inside
  have range := lowered _ (List.mem_map_of_mem inside)
  rw [toNat_lowerAscii] at range
  split_ifs at range <;> omega

theorem IsAlphanumeric.visible {chars : List Char} (plain : IsAlphanumeric chars) {char : Char}
    (inside : char ∈ chars) : isBlank char = false := by
  obtain ⟨low, high⟩ := plain char inside
  exact Token.isBlank_of_graphic (by omega) (by omega)

/-- The blanks that are left behind visible characters are dropped. -/
theorem trimEnd_filter {before chars after : List Char} (plain : IsAlphanumeric chars)
    (filled : chars ≠ []) (blank : ∀ char ∈ after, isBlank char = true) :
    trimEnd ((before ++ chars ++ after).filter (· ≠ '\r')) =
      before.filter (· ≠ '\r') ++ chars := by
  have kept : chars.filter (· ≠ '\r') = chars := by
    rw [List.filter_eq_self]
    intro char inside
    have range := plain char inside
    apply decide_eq_true
    rintro rfl
    exact absurd range.1 (by decide)
  obtain ⟨init, last, rfl⟩ := (List.eq_nil_or_concat' chars).resolve_left filled
  rw [List.filter_append, List.filter_append, kept, ← List.append_assoc]
  exact trimEnd_append (plain.visible (by simp))
    fun char inside => blank char (List.mem_of_mem_filter inside)

end Text

namespace Token

open Reduct.Text Number

variable {chars digits : List Char} {mark : Char} {radix : Nat}

theorem isAlphanumeric_of_lowered (listed : (mark, radix) ∈ radixMarks)
    (starts : chars.map lowerAscii = '0' :: mark :: digits) (all : AllDigits radix digits) :
    IsAlphanumeric chars := by
  apply IsAlphanumeric.of_lowered
  rw [starts, IsAlphanumeric, List.forall_mem_cons, List.forall_mem_cons]
  refine ⟨by decide, ?_, all.isAlphanumeric⟩
  simp only [radixMarks, List.mem_cons, Prod.mk.injEq, List.not_mem_nil, or_false] at listed
  rcases listed with ⟨rfl, -⟩ | ⟨rfl, -⟩ | ⟨rfl, -⟩ <;> decide

/-- A text with a radix mark is its mark in either case and its digits. -/
theorem exists_of_lowered (starts : chars.map lowerAscii = '0' :: mark :: digits)
    (all : AllDigits radix digits) :
    ∃ letter rest, chars = '0' :: letter :: rest ∧ lowerAscii letter = mark ∧
      AllDigits radix rest ∧ rest.length = digits.length := by
  obtain ⟨zero, _, rfl, first, behind⟩ := List.map_eq_cons_iff.mp starts
  obtain ⟨letter, rest, rfl, marked, rfl⟩ := List.map_eq_cons_iff.mp behind
  have code := congrArg Char.toNat first
  rw [toNat_lowerAscii] at code
  obtain rfl : zero = '0' := by
    apply Char.toNat_inj.mp
    change _ = 48 at code
    change _ = 48
    split_ifs at code <;> omega
  refine ⟨letter, rest, rfl, marked, fun char inside => ?_, by rw [List.length_map]⟩
  rw [← digit?_lowerAscii]
  exact all _ (List.mem_map_of_mem inside)

/-- A radix mark with digits is a number without a suffix. -/
theorem numberBody_of_lowered (listed : (mark, radix) ∈ radixMarks)
    (starts : chars.map lowerAscii = '0' :: mark :: digits) (filled : digits ≠ [])
    (all : AllDigits radix digits) : Rule.numberBody chars = chars.length := by
  obtain ⟨letter, rest, rfl, marked, restDigits, length⟩ := exists_of_lowered starts all
  have taken : Rule.run (fun digit => (digit? radix digit).isSome) rest = rest.length := by
    have run := run_append _ rest [] restDigits (by simp)
    rwa [List.append_nil] at run
  have positive : 0 < rest.length := by
    rw [length]
    exact List.length_pos_iff.mpr filled
  simp only [radixMarks, List.mem_cons, Prod.mk.injEq, List.not_mem_nil, or_false] at listed
  rcases listed with ⟨rfl, rfl⟩ | ⟨rfl, rfl⟩ | ⟨rfl, rfl⟩ <;>
    simp [Rule.numberBody, Rule.radixSpan, marked, taken, positive]

/-- Only blanks are left around a trimmed text of letters and digits, and only in front of it. -/
theorem exists_clean (plain : IsAlphanumeric (trim chars)) (filled : trim chars ≠ []) :
    ∃ spaces, (∀ char ∈ spaces, isBlank char = true) ∧ clean chars = spaces ++ trim chars := by
  obtain ⟨before, after, whole, blankBefore, blankAfter⟩ := exists_blanks chars
  generalize trim chars = core at plain filled whole ⊢
  have unmarked : ∀ first ∈ chars.head?, first.toNat ≠ 0xFEFF := by
    rw [whole]
    cases before with
    | nil =>
        obtain ⟨first, others, rfl⟩ := List.exists_cons_of_ne_nil filled
        rintro char ⟨⟩ code
        have range := plain first List.mem_cons_self
        omega
    | cons first others =>
        rintro char ⟨⟩ code
        have blank := blankBefore first List.mem_cons_self
        simp [isBlank, code] at blank
  refine ⟨before.filter (· ≠ '\r'), fun char inside => ?_, ?_⟩
  · exact blankBefore char (List.mem_of_mem_filter inside)
  · rw [clean_of_unmarked unmarked, whole]
    exact trimEnd_filter plain filled blankAfter

/-- A number behind blanks is one token. -/
theorem scan_of_numberBody {text : String} {spaces tail : List Char} {first : Char}
    (cleaned : clean text.toList = spaces ++ first :: tail)
    (blank : ∀ char ∈ spaces, isBlank char = true) (plain : IsPlain first)
    (body : Rule.numberBody (first :: tail) = (first :: tail).length) :
    ∃ line column,
      scan text = .ok [⟨.number, String.ofList (first :: tail), line, column, false⟩] := by
  have cut : Cuts (first :: tail) [⟨.number, first :: tail, 0⟩] [] := by
    have alone := @cuts_number first tail [] plain (by rwa [List.append_nil]) rfl
    rwa [List.append_nil] at alone
  have makes : Segment.kind? ⟨.number, first :: tail, 0⟩ = some .number := if_pos body
  rw [scan]
  simp only [cleaned]
  cases spaces with
  | nil =>
      rw [List.nil_append, segments_of_cuts cut rfl _ le_rfl]
      simp [tokensFrom, Segment.token?, makes]
  | cons space more =>
      have skips : Segment.kind? ⟨.blank, space :: more, 0⟩ = none := rfl
      have both := (cuts_blanks (List.cons_ne_nil space more) blank plain.2.2.2.1).append cut
      rw [segments_of_cuts both rfl _ le_rfl]
      simp [tokensFrom, Segment.token?, makes, skips]

/-- A text with a radix mark and digits between blanks is one number token. -/
theorem scan_of_lowered (text : String) (listed : (mark, radix) ∈ radixMarks)
    (starts : (trim text.toList).map lowerAscii = '0' :: mark :: digits) (filled : digits ≠ [])
    (all : AllDigits radix digits) :
    ∃ line column,
      scan text = .ok [⟨.number, String.ofList (trim text.toList), line, column, false⟩] := by
  have plain := isAlphanumeric_of_lowered listed starts all
  have body := numberBody_of_lowered listed starts filled all
  obtain ⟨letter, rest, same, -⟩ := exists_of_lowered starts all
  obtain ⟨spaces, blank, cleaned⟩ := exists_clean plain (by rw [same]; exact List.cons_ne_nil _ _)
  rw [same] at body cleaned ⊢
  exact scan_of_numberBody cleaned blank ⟨by decide, by decide, by decide, rfl, by decide⟩ body

end Token

namespace Node

open Reduct.Text Number

variable {text : String} {digits : List Char} {mark : Char} {radix : Nat}

theorem toNumber_of_lowered (listed : (mark, radix) ∈ radixMarks)
    (starts : (trim text.toList).map lowerAscii = '0' :: mark :: digits) :
    (string text).toNumber = ((word64? radix digits).map Float.ofInt).getD notANumber := by
  have marked := (radixMark?_eq_some_iff _ _ _).mpr ⟨mark, listed, starts⟩
  have filled : (trim text.toList).isEmpty = false := by
    rw [List.isEmpty_eq_false_iff]
    intro nothing
    rw [nothing] at starts
    cases starts
  simp only [toNumber, ofText, marked, filled, Bool.false_eq_true, if_false]

/-- Digits become the double nearest to their number while it fits a word. -/
theorem toNumber_of_digits (listed : (mark, radix) ∈ radixMarks)
    (starts : (trim text.toList).map lowerAscii = '0' :: mark :: digits) (filled : digits ≠ [])
    {count : Nat} (value : digits? radix digits = some count) :
    (string text).toNumber = if count < 2 ^ 63 then Float.ofNat count else notANumber := by
  have all := allDigits_of_digits? value
  rw [toNumber_of_lowered listed starts]
  split_ifs with small
  · rw [(word64?_eq_some_iff radix digits count).mpr
      ⟨[], digits, count, rfl, filled, value, .inl ⟨.inl rfl, small, rfl⟩⟩]
    rfl
  · have failed : word64? radix digits = none := by
      rw [Option.eq_none_iff_forall_ne_some]
      intro units read
      obtain ⟨sign, rest, other, rfl, -, otherValue, unsigned | ⟨rfl, -⟩⟩ :=
        (word64?_eq_some_iff radix digits units).mp read
      · obtain ⟨rfl | rfl, below, -⟩ := unsigned
        · rw [List.nil_append, otherValue, Option.some_inj] at value
          exact small (value ▸ below)
        · exact absurd rfl (@AllDigits.head?_ne _ _ all '+' rfl)
      · exact absurd rfl (@AllDigits.head?_ne _ _ all '-' rfl)
    rw [failed]
    rfl

/-- A source of one number token is the program of its number. -/
theorem parse_of_number {token : Token} {value : Float} (scanned : Token.scan text = .ok [token])
    (number : token.kind = .number) (read : ofAtom token = .ok (.number value)) :
    parse text = .ok (canonical (.list [.number value])) := by
  rw [parse, scanned]
  change ofTokens [token] = _
  rw [ofTokens, Assembly.steps, Assembly.step, number, read]
  rfl

/-- Text with a radix mark is one number token when digits follow the mark. It is made the number
of that token exactly when the number fits a word and no half is lost in adding up the digits. Any
other text with a radix mark is made no number, unless a sign stands before the digits. -/
theorem toNumber_radix_text (text : String) (mark : Char) (radix : Nat) (digits : List Char)
    (listed : (mark, radix) ∈ radixMarks)
    (starts : (trim text.toList).map lowerAscii = '0' :: mark :: digits) :
    (digits ≠ [] ∧ AllDigits radix digits →
      ∃ token value count, Token.scan text = .ok [token] ∧ ofAtom token = .ok (.number value) ∧
        parse text = .ok (canonical (.list [.number value])) ∧
        digits? radix digits = some count ∧
        (string text).toNumber = (if count < 2 ^ 63 then Float.ofNat count else notANumber) ∧
        ((string text).toNumber = value ↔ count < 2 ^ 63 ∧ ¬ LosesHalf radix digits)) ∧
    (¬ (digits ≠ [] ∧ AllDigits radix digits) →
      ((string text).toNumber = notANumber ↔ ¬ IsSignedWord radix digits)) := by
  constructor
  · rintro ⟨filled, all⟩
    obtain ⟨bits, low, rfl⟩ := exists_bits_of_mem_radixMarks listed
    obtain ⟨line, column, scanned⟩ := Token.scan_of_lowered text listed starts filled all
    have marked := (radixMark?_eq_some_iff _ _ _).mpr ⟨mark, listed, starts⟩
    have value := all.digits?_eq
    have read : literal? (String.ofList (trim text.toList)).toList =
        some (accumulated (2 ^ bits) (places (2 ^ bits) digits)) := by
      rw [String.toList_ofList, literal?]
      simp only [marked]
      exact accumulate?_eq all
    have atom := @ofAtom_of_literal? ⟨.number, _, line, column, false⟩ _ rfl read
    have coerced := toNumber_of_digits listed starts filled value
    refine ⟨_, _, _, scanned, atom, parse_of_number scanned rfl atom, value, coerced, ?_⟩
    rw [coerced]
    -- Below `2 ^ 63` both readings are doubles of counts, and above it one of them is no number.
    split_ifs with small
    · rw [ofNat_eq_accumulated_iff low all value small, and_iff_right small]
    · have total := isTotal_accumulated bits low _ all.places_lt
      exact ⟨fun same => absurd same.symm total.ne_notANumber, fun both => absurd both.1 small⟩
  · intro other
    rw [toNumber_of_lowered listed starts, isSignedWord_iff other]
    cases word64? radix digits with
    | none => simp
    | some units => simp [ofInt_ne_notANumber units]

-- The last digit would break a tie that has been rounded down before it.
example :
    ofText "0x200000000000011" = 144115188075855904.0 ∧
      literal? "0x200000000000011".toList = some 144115188075855872.0 := by
  decide +kernel

/-- Capital digits between blanks are made the number of their token, and a digit of another radix
is made none. -/
theorem paddedHex_same_number :
    (∃ token value, Token.scan " 0XfF\n" = .ok [token] ∧ ofAtom token = .ok (.number value) ∧
      (string " 0XfF\n").toNumber = value) ∧
    (string "0b12").toNumber = notANumber := by
  constructor
  · have all : AllDigits 16 ['f', 'f'] := (isSome_digits?_iff 16 _).mp rfl
    obtain ⟨token, value, count, scanned, read, -, number, -, same⟩ :=
      (toNumber_radix_text " 0XfF\n" 'x' 16 ['f', 'f'] (by decide) rfl).1 ⟨by decide, all⟩
    obtain rfl : 255 = count := Option.some_inj.mp number
    exact ⟨token, value, scanned, read,
      same.mpr ⟨by decide, not_losesHalf_of_lt (by decide) number (by decide)⟩⟩
  · refine ((toNumber_radix_text "0b12" 'b' 2 ['1', '2'] (by decide) rfl).2 ?_).mpr ?_
    · exact fun run => absurd (run.2 '2' (by decide)) (by decide)
    · rintro ⟨sign, rest, -, same, -, -, ⟨rfl, -⟩ | ⟨rfl, -⟩⟩ <;> cases same

/-- The literal of `2 ^ 63` is a number, and the same text is made none. -/
theorem highBit_no_number :
    ∃ token, Token.scan "0x8000000000000000" = .ok [token] ∧
      ofAtom token = .ok (.number 9223372036854775808.0) ∧
      (string "0x8000000000000000").toNumber = notANumber ∧
      notANumber ≠ 9223372036854775808.0 := by
  have read : literal? "0x8000000000000000".toList = some 9223372036854775808.0 := by
    decide +kernel
  exact ⟨_, rfl, ofAtom_of_literal? rfl read, rfl, by decide +kernel⟩

end Node

end Reduct
