import Mathlib.Tactic
import Reduct.Token.Scan

namespace Reduct.Token

open Reduct.Text

/-- A regular expression. Its repetitions take as much as they can, or as little. -/
inductive Regex where
  | one (test : Char → Bool)
  | both (first second : Regex)
  | either (first second : Regex)
  | maybe (inner : Regex)
  | many (inner : Regex)
  | few (inner : Regex)

namespace Regex

/-- What the matches at the front of a text leave of it, the preferred match first. -/
def rests : Regex → List Char → List (List Char)
  | one test, char :: rest => if test char then [rest] else []
  | one _, [] => []
  | both first second, chars => (first.rests chars).flatMap second.rests
  | either first second, chars => first.rests chars ++ second.rests chars
  | maybe inner, chars => inner.rests chars ++ [chars]
  | many inner, chars =>
    ((inner.rests chars).flatMap fun rest =>
      if rest.length < chars.length then (many inner).rests rest else []) ++ [chars]
  | few inner, chars =>
    chars :: (inner.rests chars).flatMap fun rest =>
      if rest.length < chars.length then (few inner).rests rest else []
termination_by regex chars => (sizeOf regex, chars.length)

/-- What the preferred match leaves. -/
def first? (regex : Regex) (chars : List Char) : Option (List Char) :=
  (regex.rests chars).head?

def char (mark : Char) : Regex := one (· == mark)

def letter (mark : Char) : Regex := one fun char => lowerAscii char == mark

/-- An expression once or more often. -/
def several (inner : Regex) : Regex := both inner (many inner)

/-- Two marks and what is between them, up to the next mark. -/
def between (mark : Char) : Regex :=
  both (char mark) (both (maybe (both (one (· != mark)) (few (one fun _ => true)))) (char mark))

def radix (mark : Char) (base : Nat) : Regex :=
  both (char '0') (both (letter mark) (several (one fun digit => (digit? base digit).isSome)))

/-- The digits of a number with a point among them or before them. -/
def digits : Regex :=
  both (many (one isDecimalDigit)) (both (maybe (char '.')) (several (one isDecimalDigit)))

def exponent : Regex :=
  both (letter 'e')
    (both (maybe (one fun char => char == '+' || char == '-')) (several (one isDecimalDigit)))

/-- A number without its suffix. -/
def numeral : Regex :=
  either (radix 'b' 2) (either (radix 'o' 8) (either (radix 'x' 16)
    (both (both (maybe (char '-')) digits) (maybe exponent))))

/-- Characters of a string that stand for themselves. -/
def plain : Regex := many (one fun char => char != '\\' && char != '"')

/-- A backslash with the character after it, and characters that stand for themselves. -/
def escaped : Regex := both (char '\\') (both (one fun _ => true) plain)

end Regex

def Rule.regex : Rule → Regex
  | .openList => .char '('
  | .close => .char ')'
  | .openQuote => .both (.char '\x27') (.char '(')
  | .blank => .several (.one isBlank)
  | .comment => .between ';'
  | .number => .both .numeral (.maybe (.several (.one isSuffixChar)))
  | .string => .both (.char '"') (.both .plain (.both (.many .escaped) (.char '"')))
  | .json => .between '\x60'
  | .identifier => .both (.one isNameStart) (.many (.one isNameChar))
  | .openArray => .char '['
  | .closeArray => .char ']'

namespace Regex

/-- What is left of a text when a positive number of characters is taken. -/
def cut? (count : Nat) (chars : List Char) : Option (List Char) :=
  if 0 < count then some (chars.drop count) else none

@[simp] theorem cut?_zero (chars : List Char) : cut? 0 chars = none := rfl

@[simp] theorem cut?_succ (count : Nat) (chars : List Char) :
    cut? (count + 1) chars = some (chars.drop (count + 1)) := rfl

/-- What is taken after some characters is taken together with them. -/
theorem cut?_drop (count skipped : Nat) (chars : List Char) :
    cut? count (chars.drop skipped) =
      cut? (if 0 < count then skipped + count else 0) chars := by
  by_cases positive : 0 < count
  · rw [cut?, cut?, if_pos positive, if_pos positive, if_pos (Nat.add_pos_right skipped positive),
      List.drop_drop]
  · rw [cut?, if_neg positive, if_neg positive, cut?_zero]

/-- What need not be taken is left when it is not there. -/
theorem getD_cut? (count : Nat) (chars : List Char) :
    (cut? count chars).getD chars = chars.drop count := by
  cases count <;> rfl

/-- The first of two expressions that takes anything is the one that matches. -/
theorem cut?_or (count other : Nat) (chars : List Char) :
    (cut? count chars).or (cut? other chars) = cut? (if 0 < count then count else other) chars := by
  by_cases positive : 0 < count
  · rw [cut?, if_pos positive, if_pos positive, Option.some_or, cut?, if_pos positive]
  · rw [cut?, if_neg positive, if_neg positive, Option.none_or]

section Matching

variable (regex other : Regex) (test : Char → Bool) (first : Char) (rest chars : List Char)

@[simp] theorem first?_one_nil : (one test).first? [] = none := by
  simp [first?, rests]

@[simp] theorem first?_one_cons :
    (one test).first? (first :: rest) = if test first then some rest else none := by
  simp only [first?, rests]
  split_ifs <;> rfl

theorem first?_both :
    (both regex other).first? chars = (regex.rests chars).findSome? other.first? := by
  simp only [first?, rests, List.head?_flatMap]
  rfl

/-- Expressions in a row may be grouped in any way. -/
theorem first?_both_assoc (last : Regex) :
    (both (both regex other) last).first? chars = (both regex (both other last)).first? chars := by
  have grouped :
      (both other last).rests = fun middle => (other.rests middle).flatMap last.rests := by
    funext middle
    rw [rests]
  simp only [first?, rests, List.flatMap_assoc, grouped]

theorem first?_either :
    (either regex other).first? chars = (regex.first? chars).or (other.first? chars) := by
  simp only [first?, rests, List.head?_append]

theorem first?_maybe :
    (maybe regex).first? chars = some ((regex.first? chars).getD chars) := by
  simp only [first?, rests, List.head?_append, List.head?_cons]
  cases (regex.rests chars).head? <;> rfl

/-- An expression that always matches goes on from the preferred match before it. -/
theorem first?_both_of_total (total : ∀ middle, ∃ left, other.first? middle = some left) :
    (both regex other).first? chars = (regex.first? chars).bind other.first? := by
  rw [first?_both, first?]
  cases regex.rests chars with
  | nil => rfl
  | cons middle middles =>
      obtain ⟨left, goesOn⟩ := total middle
      rw [List.findSome?_cons, goesOn, List.head?_cons, Option.bind_some, goesOn]

/-- A match that is the only one is followed from there. -/
theorem first?_one_both :
    (both (one test) regex).first? chars =
      ((one test).first? chars).bind regex.first? := by
  rw [first?_both]
  cases chars with
  | nil => simp [rests]
  | cons first rest =>
      rw [first?_one_cons, rests]
      split_ifs
      · rw [List.findSome?_cons]
        cases h : regex.first? rest <;> simp [h]
      · rfl

@[simp] theorem rests_many_one_nil : (many (one test)).rests [] = [[]] := by
  simp [rests]

theorem rests_many_one_cons :
    (many (one test)).rests (first :: rest) =
      if test first then (many (one test)).rests rest ++ [first :: rest] else [first :: rest] := by
  rw [rests, rests]
  split_ifs <;> simp

/-- As many characters as possible are those up to the first that fails the test. -/
theorem first?_many_one :
    (many (one test)).first? chars = some (chars.dropWhile test) := by
  induction chars with
  | nil => simp [first?]
  | cons first rest inductionHypothesis =>
      rw [first?] at inductionHypothesis ⊢
      rw [rests_many_one_cons, List.dropWhile_cons]
      split_ifs
      · rw [List.head?_append, inductionHypothesis, Option.some_or]
      · rfl

theorem drop_run : chars.drop (Rule.run test chars) = chars.dropWhile test := by
  induction chars with
  | nil => rfl
  | cons first rest inductionHypothesis =>
      rw [Rule.run, List.takeWhile_cons, List.dropWhile_cons]
      split_ifs
      · exact inductionHypothesis
      · rfl

@[simp] theorem run_nil : Rule.run test [] = 0 := rfl

theorem run_cons :
    Rule.run test (first :: rest) = if test first then Rule.run test rest + 1 else 0 := by
  rw [Rule.run, List.takeWhile_cons]
  split_ifs <;> rfl

/-- Characters that pass a test are taken as long as they do. -/
theorem first?_several_one :
    (several (one test)).first? chars = cut? (Rule.run test chars) chars := by
  rw [several, first?_one_both]
  cases chars with
  | nil => simp [Rule.run]
  | cons first rest =>
      rw [first?_one_cons, run_cons]
      split_ifs
      · rw [Option.bind_some, first?_many_one, cut?_succ, List.drop_succ_cons, drop_run]
      · rfl

end Matching

section Rules

variable (mark first : Char) (rest chars : List Char)

@[simp] theorem first?_char_nil : (char mark).first? [] = none :=
  first?_one_nil _

@[simp] theorem first?_char_cons :
    (char mark).first? (first :: rest) = if first = mark then some rest else none := by
  simp [char]

theorem first?_char : (char mark).first? chars = cut? (Rule.single mark chars) chars := by
  cases chars with
  | nil => simp [Rule.single]
  | cons first rest =>
      rw [first?_char_cons, Rule.single]
      split_ifs <;> rfl

/-- As few characters as possible may end anywhere, and the nearest end is preferred. -/
theorem rests_few_any : (few (one fun _ => true)).rests chars = chars.tails := by
  induction chars with
  | nil =>
      rw [rests, rests]
      rfl
  | cons first rest inductionHypothesis =>
      rw [rests, rests]
      simp [inductionHypothesis]

/-- The nearest end before a mark is the first one. -/
theorem findSome?_tails :
    chars.tails.findSome? (char mark).first? =
      (chars.findIdx? (· == mark)).map fun index => chars.drop (index + 1) := by
  induction chars with
  | nil => simp
  | cons first rest inductionHypothesis =>
      rw [List.tails_cons, List.findSome?_cons, List.findIdx?_cons, inductionHypothesis]
      by_cases same : first = mark
      · simp [same]
      · simp [same, Function.comp_def]

/-- After the first mark, the text ends at the second one. -/
theorem first?_body :
    (both (maybe (both (one (· != mark)) (few (one fun _ => true)))) (char mark)).first?
        (first :: rest) =
      if first = mark then some rest
      else (rest.findIdx? (· == mark)).map fun index => rest.drop (index + 1) := by
  have inner : (both (one (· != mark)) (few (one fun _ => true))).rests (first :: rest) =
      if first = mark then [] else rest.tails := by
    rw [rests, rests]
    by_cases same : first = mark <;> simp [same, rests_few_any]
  rw [first?_both, rests, inner, List.findSome?_append]
  split_ifs with same
  · simp [same]
  · simp [same, findSome?_tails]

theorem first?_body_nil :
    (both (maybe (both (one (· != mark)) (few (one fun _ => true)))) (char mark)).first? [] =
      none := by
  rw [first?_both, rests, rests, rests]
  simp

theorem first?_between : (between mark).first? chars = cut? (Rule.delimited mark chars) chars := by
  rw [between, char, first?_one_both, ← char]
  match chars with
  | [] => simp [Rule.delimited]
  | [first] =>
      rw [first?_char_cons]
      split_ifs
      · exact first?_body_nil mark
      · rfl
  | first :: second :: rest =>
      rw [first?_char_cons, Rule.delimited]
      by_cases same : first = mark
      · rw [if_pos same, if_neg (not_not.mpr same), Option.bind_some, first?_body]
        split_ifs
        · rfl
        · cases rest.findIdx? (· == mark) <;> rfl
      · rw [if_neg same, if_pos same]
        rfl

end Rules

section Numbers

variable (test : Char → Bool) (chars : List Char)

theorem first?_radix (mark : Char) (base : Nat) :
    (radix mark base).first? chars = cut? (Rule.radixSpan mark base chars) chars := by
  rw [radix, char, first?_one_both, ← char]
  match chars with
  | [] => simp [Rule.radixSpan]
  | [first] =>
      rw [first?_char_cons]
      split_ifs
      · rw [Option.bind_some, letter, first?_one_both]
        simp [Rule.radixSpan]
      · simp [Rule.radixSpan]
  | first :: second :: rest =>
      rw [first?_char_cons]
      by_cases zero : first = '0'
      · subst zero
        rw [if_pos rfl, Option.bind_some, letter, first?_one_both, first?_one_cons, Rule.radixSpan]
        by_cases same : lowerAscii second = mark
        · simp only [same, beq_self_eq_true, if_true, Option.bind_some, first?_several_one,
            true_and]
          split_ifs with some
          · rw [cut?, if_pos some, cut?_succ, List.drop_succ_cons, List.drop_succ_cons]
          · rw [cut?, if_neg some, cut?_zero]
        · simp [same]
      · simp [Rule.radixSpan, zero]

/-- A character that may come first is taken when the text after it could not match with it. -/
theorem first?_maybe_one (regex : Regex)
    (refuses : ∀ first rest, test first = true → regex.first? (first :: rest) = none) :
    (both (maybe (one test)) regex).first? chars =
      regex.first? (chars.drop (Rule.run test (chars.take 1))) := by
  rw [first?_both, rests, List.findSome?_append]
  cases chars with
  | nil => simp [rests, Rule.run]
  | cons first rest =>
      rw [rests, List.take_succ_cons, List.take_zero, run_cons]
      by_cases passes : test first = true
      · simp [passes, refuses first rest passes, Rule.run]
      · simp [passes]

/-- A character that fails a test starts no run. -/
theorem first?_several_one_cons (first : Char) (rest : List Char) (fails : test first = false) :
    (several (one test)).first? (first :: rest) = none := by
  rw [first?_several_one, run_cons, fails, if_neg Bool.false_ne_true, cut?_zero]

theorem run_dropWhile : Rule.run test (chars.dropWhile test) = 0 := by
  induction chars with
  | nil => rfl
  | cons first rest inductionHypothesis =>
      rw [List.dropWhile_cons]
      by_cases passes : test first = true
      · rw [if_pos passes, inductionHypothesis]
      · rw [if_neg passes, run_cons, if_neg passes]

theorem first?_exponent : exponent.first? chars = cut? (Rule.exponentSpan chars) chars := by
  rw [exponent, letter, first?_one_both]
  cases chars with
  | nil => simp [Rule.exponentSpan]
  | cons mark rest =>
      rw [first?_one_cons, Rule.exponentSpan]
      by_cases same : lowerAscii mark = 'e'
      · rw [if_pos (beq_iff_eq.mpr same), Option.bind_some, first?_maybe_one,
          if_neg (not_not.mpr same)]
        · have behind (count : Nat) : rest.drop count = (mark :: rest).drop (1 + count) := by
            rw [Nat.add_comm, List.drop_succ_cons]
          rw [first?_several_one, behind, cut?_drop, ← behind]
        · intro first rest sign
          apply first?_several_one_cons
          rcases (by simpa using sign : first = '+' ∨ first = '-') with rfl | rfl <;> rfl
      · simp [same]

/-- A point is taken when digits follow it. -/
theorem first?_point :
    (both (maybe (char '.')) (several (one isDecimalDigit))).first? chars =
      (several (one isDecimalDigit)).first? (chars.drop (Rule.run (· == '.') (chars.take 1))) := by
  apply first?_maybe_one
  intro first rest point
  apply first?_several_one_cons
  obtain rfl : first = '.' := by simpa using point
  rfl

/-- Digits before a point give the last one back when no digit follows the point. -/
theorem findSome?_many_digits :
    ((many (one isDecimalDigit)).rests chars).findSome?
        (both (maybe (char '.')) (several (one isDecimalDigit))).first? =
      ((both (maybe (char '.')) (several (one isDecimalDigit))).first?
        (chars.dropWhile isDecimalDigit)).or (cut? (Rule.run isDecimalDigit chars) chars) := by
  induction chars with
  | nil => simp [Rule.run]
  | cons first rest inductionHypothesis =>
      rw [rests_many_one_cons, List.dropWhile_cons, run_cons]
      by_cases digit : isDecimalDigit first = true
      · have point : (first == '.') = false := by
          rw [beq_eq_false_iff_ne]
          rintro rfl
          cases digit
        have last : (both (maybe (char '.')) (several (one isDecimalDigit))).first?
            (first :: rest) = some (rest.drop (Rule.run isDecimalDigit rest)) := by
          rw [first?_point, List.take_succ_cons, run_cons, point, if_neg Bool.false_ne_true,
            List.drop_zero, first?_several_one, run_cons, if_pos digit, cut?_succ,
            List.drop_succ_cons]
        have given : (cut? (Rule.run isDecimalDigit rest) rest).or
            (some (rest.drop (Rule.run isDecimalDigit rest))) =
              some (rest.drop (Rule.run isDecimalDigit rest)) := by
          rw [cut?]
          split_ifs <;> rfl
        simp only [digit, if_true]
        rw [List.findSome?_append, inductionHypothesis, List.findSome?_singleton, last,
          Option.or_assoc, given, cut?_succ, List.drop_succ_cons]
      · simp [digit]

theorem first?_digits : digits.first? chars = cut? (Rule.plainSpan chars) chars := by
  rw [digits, first?_both, findSome?_many_digits, first?_point, first?_several_one, ← drop_run]
  have stops : Rule.run isDecimalDigit (chars.drop (Rule.run isDecimalDigit chars)) = 0 := by
    rw [drop_run, run_dropWhile]
  match equal : chars.drop (Rule.run isDecimalDigit chars) with
  | [] => simp [Rule.plainSpan, equal]
  | first :: rest =>
      by_cases point : first = '.'
      · subst point
        have one : Rule.run (· == '.') (('.' :: rest).take 1) = 1 := rfl
        have behind : rest = chars.drop (Rule.run isDecimalDigit chars + 1) := by
          rw [← List.drop_drop, equal, List.drop_succ_cons, List.drop_zero]
        have taken : cut? (Rule.run isDecimalDigit rest) rest =
            cut? (if 0 < Rule.run isDecimalDigit rest then
              Rule.run isDecimalDigit chars + 1 + Rule.run isDecimalDigit rest else 0) chars := by
          rw [← cut?_drop, ← behind]
        rw [one, List.drop_succ_cons, List.drop_zero, taken, cut?_or, Rule.plainSpan]
        simp only [equal]
        by_cases follows : 0 < Rule.run isDecimalDigit rest
        · rw [if_pos follows, if_pos follows, if_pos (Nat.add_pos_right _ follows)]
        · rw [if_neg follows, if_neg follows, if_neg (Nat.lt_irrefl 0)]
      · have none : Rule.run (· == '.') ((first :: rest).take 1) = 0 := by
          simp [Rule.run, point]
        rw [equal] at stops
        rw [none, List.drop_zero, stops, cut?_zero, Option.none_or, Rule.plainSpan]
        simp [equal, point]

theorem single_eq_run (mark : Char) :
    Rule.single mark chars = Rule.run (· == mark) (chars.take 1) := by
  cases chars with
  | nil => rfl
  | cons first rest => simp [Rule.single, run_cons]

/-- A minus sign is taken when digits follow it. -/
theorem first?_signed :
    (both (maybe (char '-')) digits).first? chars =
      cut? (Rule.plainSpan (chars.drop (Rule.single '-' chars)))
        (chars.drop (Rule.single '-' chars)) := by
  rw [char, first?_maybe_one, first?_digits, single_eq_run]
  intro first rest sign
  obtain rfl : first = '-' := by simpa using sign
  rw [first?_digits]
  rfl

/-- What may follow a match is taken when it is there. -/
theorem first?_both_maybe {regex other : Regex} {taken : Nat} {more : List Char → Nat}
    (before : regex.first? chars = cut? taken chars)
    (after : ∀ rest, other.first? rest = cut? (more rest) rest) :
    (both regex (maybe other)).first? chars =
      cut? (if 0 < taken then taken + more (chars.drop taken) else 0) chars := by
  rw [first?_both_of_total, before]
  · by_cases positive : 0 < taken
    · rw [cut?, if_pos positive, Option.bind_some, first?_maybe, after, getD_cut?, List.drop_drop,
        if_pos positive, cut?, if_pos (Nat.add_pos_left positive _)]
    · rw [cut?, if_neg positive, if_neg positive, cut?_zero]
      rfl
  · exact fun middle => ⟨_, first?_maybe other middle⟩

theorem first?_decimal :
    (both (both (maybe (char '-')) digits) (maybe exponent)).first? chars =
      cut? (Rule.decimalSpan chars) chars := by
  have signed := (first?_signed chars).trans (cut?_drop _ _ chars)
  rw [first?_both_maybe chars signed first?_exponent, Rule.decimalSpan]
  by_cases digits : 0 < Rule.plainSpan (chars.drop (Rule.single '-' chars))
  · simp only [digits, if_true, Nat.add_pos_right _ digits]
  · simp only [digits, if_false, Nat.lt_irrefl]

/-- The first of some counts that is positive is the first one or comes later. -/
theorem getD_find?_cons (count : Nat) (counts : List Nat) :
    ((count :: counts).find? (0 < ·)).getD 0 =
      if 0 < count then count else (counts.find? (0 < ·)).getD 0 := by
  by_cases positive : 0 < count <;> simp [positive]

theorem first?_numeral : numeral.first? chars = cut? (Rule.numberBody chars) chars := by
  rw [numeral, first?_either, first?_either, first?_either, first?_radix, first?_radix,
    first?_radix, first?_decimal, cut?_or, cut?_or, cut?_or, Rule.numberBody]
  simp only [getD_find?_cons, List.find?_nil, Option.getD_none]
  congr 4
  by_cases positive : 0 < Rule.decimalSpan chars
  · rw [if_pos positive]
  · rw [if_neg positive]
    omega

theorem first?_number :
    (both numeral (maybe (several (one Rule.isSuffixChar)))).first? chars =
      cut? (Rule.numberSpan chars) chars :=
  first?_both_maybe chars (first?_numeral chars) (first?_several_one Rule.isSuffixChar)

end Numbers

section Strings

variable (chars : List Char)

/-- A string after its opening quote and the characters that stand for themselves. -/
def stringTail : Regex := both (many escaped) (char '"')

/-- What a repetition leaves is no longer than the text. -/
theorem length_le_of_mem_rests_many_one {test : Char → Bool} {left : List Char}
    (leaves : left ∈ (many (one test)).rests chars) : left.length ≤ chars.length := by
  induction chars with
  | nil => simp_all
  | cons first rest inductionHypothesis =>
      rw [rests_many_one_cons] at leaves
      split_ifs at leaves
      · rcases List.mem_append.mp leaves with inner | whole
        · exact (inductionHypothesis inner).trans (Nat.le_succ _)
        · rw [List.mem_singleton.mp whole]
      · rw [List.mem_singleton.mp leaves]

theorem rests_escaped (second : Char) (rest : List Char) :
    escaped.rests ('\\' :: second :: rest) = plain.rests rest := by
  rw [escaped, rests, char, rests]
  simp [rests]

/-- Where no backslash takes a character with it, a string can only end. -/
theorem first?_stringTail (unescaped : escaped.rests chars = []) :
    stringTail.first? chars = (char '"').first? chars := by
  rw [stringTail, first?_both, rests, unescaped]
  simp

/-- A backslash takes the next character with it. -/
theorem first?_stringTail_escape (second : Char) (rest : List Char) :
    stringTail.first? ('\\' :: second :: rest) = (both plain stringTail).first? rest := by
  have shorter : ((plain.rests rest).flatMap fun left =>
      if left.length < ('\\' :: second :: rest).length then (many escaped).rests left else []) =
        (plain.rests rest).flatMap (many escaped).rests := by
    apply List.flatMap_congr
    intro left leaves
    have bound := length_le_of_mem_rests_many_one rest leaves
    rw [if_pos (by simp only [List.length_cons]; omega)]
  rw [stringTail, first?_both, rests, rests_escaped, shorter, List.findSome?_append,
    ← first?_both_assoc, first?_both, rests]
  simp

/-- Characters that stand for themselves are all taken. -/
theorem first?_stringBody_cons (first : Char) (rest : List Char) :
    (both plain stringTail).first? (first :: rest) =
      if first ≠ '\\' ∧ first ≠ '"' then (both plain stringTail).first? rest
      else stringTail.first? (first :: rest) := by
  rw [first?_both, first?_both, plain, rests_many_one_cons]
  by_cases ordinary : first ≠ '\\' ∧ first ≠ '"'
  · have nothing : escaped.rests (first :: rest) = [] := by
      rw [escaped, rests, char, rests]
      simp [ordinary.1]
    rw [if_pos (by simpa using ordinary), if_pos ordinary, List.findSome?_append,
      List.findSome?_singleton, first?_stringTail _ nothing, first?_char_cons, if_neg ordinary.2,
      Option.or_none]
  · rw [if_neg (by simpa using ordinary), if_neg ordinary, List.findSome?_singleton]

/-- The body of a string ends after the first quote that no backslash takes. -/
theorem first?_stringBody :
    (both plain stringTail).first? chars = (Rule.stringBody chars).map (chars.drop ·) := by
  fun_induction Rule.stringBody chars with
  | case1 =>
      have nothing : escaped.rests [] = [] := by
        rw [escaped, rests, char, rests]
        rfl
      rw [first?_both, plain, rests_many_one_nil, List.findSome?_singleton,
        first?_stringTail _ nothing, first?_char_nil]
      rfl
  | case2 rest =>
      have nothing : escaped.rests ('"' :: rest) = [] := by
        rw [escaped, rests, char, rests]
        simp
      rw [first?_stringBody_cons, if_neg (by decide), first?_stringTail _ nothing, first?_char_cons]
      rfl
  | case3 =>
      have nothing : escaped.rests ['\\'] = [] := by
        rw [escaped, rests, char, rests]
        simp [rests]
      rw [first?_stringBody_cons, if_neg (by decide), first?_stringTail _ nothing]
      simp
  | case4 second rest inductionHypothesis =>
      rw [first?_stringBody_cons, if_neg (by decide), first?_stringTail_escape, inductionHypothesis,
        Option.map_map]
      rfl
  | case5 first rest quote lone escape inductionHypothesis =>
      have backslash : first ≠ '\\' := by
        intro same
        cases rest with
        | nil => exact lone same rfl
        | cons second rest => exact escape second rest same rfl
      rw [first?_stringBody_cons, if_pos ⟨backslash, quote⟩, inductionHypothesis, Option.map_map]
      rfl

theorem first?_string :
    (both (char '"') (both plain (both (many escaped) (char '"')))).first? chars =
      cut? (Rule.stringSpan chars) chars := by
  rw [char, first?_one_both, ← char, ← stringTail]
  cases chars with
  | nil => simp [Rule.stringSpan]
  | cons first rest =>
      rw [first?_char_cons]
      by_cases quote : first = '"'
      · subst quote
        rw [if_pos rfl, Option.bind_some, first?_stringBody, Rule.stringSpan]
        cases Rule.stringBody rest <;> rfl
      · simp [Rule.stringSpan, quote]

end Strings

theorem first?_name (chars : List Char) :
    (both (one Rule.isNameStart) (many (one Rule.isNameChar))).first? chars =
      cut? (Rule.nameSpan chars) chars := by
  rw [first?_one_both]
  cases chars with
  | nil => simp [Rule.nameSpan]
  | cons first rest =>
      rw [first?_one_cons, Rule.nameSpan]
      split_ifs
      · rw [Option.bind_some, first?_many_one, Nat.add_comm, cut?_succ, List.drop_succ_cons,
          drop_run]
      · rfl

theorem first?_openQuote (chars : List Char) :
    (both (char '\x27') (char '(')).first? chars = cut? (Rule.openQuoteSpan chars) chars := by
  rw [char, first?_one_both, ← char]
  match chars with
  | [] => simp [Rule.openQuoteSpan]
  | [first] =>
      rw [first?_char_cons]
      split_ifs <;> simp [Rule.openQuoteSpan]
  | first :: second :: rest =>
      rw [first?_char_cons, Rule.openQuoteSpan]
      by_cases quote : first = '\x27'
      · by_cases opening : second = '(' <;> simp [quote, opening]
      · simp [quote]

end Regex

/-- A rule takes what the preferred match of its expression takes. -/
theorem Rule.first?_regex (rule : Rule) (chars : List Char) :
    rule.regex.first? chars = Regex.cut? (rule.span chars) chars := by
  cases rule with
  | openList => exact Regex.first?_char '(' chars
  | close => exact Regex.first?_char ')' chars
  | openQuote => exact Regex.first?_openQuote chars
  | blank => exact Regex.first?_several_one isBlank chars
  | comment => exact Regex.first?_between ';' chars
  | number => exact Regex.first?_number chars
  | string => exact Regex.first?_string chars
  | json => exact Regex.first?_between '\x60' chars
  | identifier => exact Regex.first?_name chars
  | openArray => exact Regex.first?_char '[' chars
  | closeArray => exact Regex.first?_char ']' chars

end Reduct.Token
