import Mathlib.Data.List.TakeWhile
import Mathlib.Tactic
import Reduct.Json.Reader
import Reduct.Proofs.Decimal

namespace Reduct.Json.Reader

open Reduct.Text

/-- A text into which no number goes on. -/
def Stops (rest : List Char) : Prop :=
  ∀ char ∈ rest.head?, isAsciiDigit char = false ∧ char ≠ '.' ∧ char ≠ 'e' ∧ char ≠ 'E'

theorem stops_nil : Stops [] := by
  simp [Stops]

theorem stops_cons {char : Char} {rest : List Char} (other : isAsciiDigit char = false)
    (mark : char ≠ '.' ∧ char ≠ 'e' ∧ char ≠ 'E') : Stops (char :: rest) := by
  rintro first ⟨⟩
  exact ⟨other, mark⟩

/-- A reader whose success does not depend on the text after a number. -/
def IsLocal {α : Type} (read : List Char → Except Fault (α × List Char)) : Prop :=
  ∀ chars found left rest, Stops rest → read chars = .ok (found, left) →
    read (chars ++ rest) = .ok (found, left ++ rest)

section Digits

variable (chars : List Char) {rest : List Char}

theorem takeWhile_append_of_stops (stops : Stops rest) :
    (chars ++ rest).takeWhile isAsciiDigit = chars.takeWhile isAsciiDigit := by
  induction chars with
  | nil =>
    cases rest with
    | nil => rfl
    | cons char rest => simp [(stops char rfl).1]
  | cons char chars inductionHypothesis => simp only [List.cons_append, List.takeWhile_cons,
      inductionHypothesis]

theorem dropWhile_append_of_stops (stops : Stops rest) :
    (chars ++ rest).dropWhile isAsciiDigit = chars.dropWhile isAsciiDigit ++ rest := by
  induction chars with
  | nil =>
    cases rest with
    | nil => rfl
    | cons char rest => simp [(stops char rfl).1]
  | cons char chars inductionHypothesis =>
    simp only [List.cons_append, List.dropWhile_cons, inductionHypothesis]
    split <;> rfl

end Digits

/-- A number that is known before the rest of the text is given back. -/
theorem isLocal_pure {α : Type} (result : Except Fault α) :
    IsLocal (fun chars => do pure (← result, chars)) := by
  intro chars found left rest _ read
  cases result with
  | error fault => cases read
  | ok value =>
    cases read
    rfl

theorem isLocal_exponentDigits (positive : Bool) (significand : Nat) (start : Int)
    (positiveExponent : Bool) :
    IsLocal (exponentDigits positive significand start positiveExponent) := by
  intro chars found left rest stops read
  cases chars with
  | nil => cases read
  | cons first tail =>
    simp only [exponentDigits, List.cons_append] at read ⊢
    rw [← List.cons_append, takeWhile_append_of_stops _ stops, dropWhile_append_of_stops _ stops]
    split at read
    · cases read
    · rename_i digit
      rw [if_neg digit]
      split at read
      · rename_i fits
        rw [if_pos fits]
        exact isLocal_pure (ofParts positive significand _) _ found left rest stops read
      · rename_i long
        rw [if_neg long]
        split at read
        · cases read
        · rename_i vanishes
          rw [if_neg vanishes]
          exact isLocal_pure (.ok _) _ found left rest stops read

theorem isLocal_exponentPart (positive : Bool) (significand : Nat) (start : Int) :
    IsLocal (exponentPart positive significand start) := by
  intro chars found left rest stops read
  cases chars with
  | nil => cases read
  | cons first tail =>
    by_cases plus : first = '+'
    · subst plus
      exact isLocal_exponentDigits positive significand start true tail found left rest stops read
    · by_cases minus : first = '-'
      · subst minus
        exact isLocal_exponentDigits positive significand start false tail found left rest stops
          read
      · have unsigned (tail : List Char) :
            exponentPart positive significand start (first :: tail) =
              exponentDigits positive significand start true (first :: tail) := by
          unfold exponentPart
          split <;> simp_all
        rw [unsigned] at read
        rw [List.cons_append, unsigned]
        exact isLocal_exponentDigits positive significand start true (first :: tail) found left rest
          stops read

theorem isLocal_afterFraction (positive : Bool) (significand : Nat) (exponent : Int) :
    IsLocal (afterFraction positive significand exponent) := by
  intro chars found left rest stops read
  cases chars with
  | nil =>
    have unmarked : afterFraction positive significand exponent rest =
        (do pure (← ofParts positive significand exponent, rest)) := by
      cases rest with
      | nil => rfl
      | cons char rest => simp [afterFraction, (stops char rfl).2.2]
    rw [List.nil_append, unmarked]
    exact isLocal_pure (ofParts positive significand exponent) [] found left rest stops read
  | cons mark tail =>
    simp only [afterFraction, List.cons_append] at read ⊢
    split_ifs at read ⊢
    · exact isLocal_exponentPart positive significand exponent tail found left rest stops read
    · exact isLocal_pure (ofParts positive significand exponent) (mark :: tail) found left rest
        stops read

theorem isLocal_fractionPart (positive : Bool) (significand : Nat) (exponent : Int) :
    IsLocal (fractionPart positive significand exponent) := by
  intro chars found left rest stops read
  unfold fractionPart at read ⊢
  rw [takeWhile_append_of_stops _ stops, dropWhile_append_of_stops _ stops]
  by_cases empty : (chars.takeWhile isAsciiDigit).isEmpty = true
  · simp only [empty, if_true] at read
    split_ifs at read
  · simp only [empty] at read ⊢
    exact isLocal_afterFraction positive _ _ _ found left rest stops read

theorem isLocal_afterInteger (positive : Bool) (significand overflow : Nat) :
    IsLocal (afterInteger positive significand overflow) := by
  intro chars found left rest stops read
  have ended : IsLocal (fun chars =>
      if overflow = 0 then .ok (wholeNumber positive significand, chars)
      else (do pure (← ofParts positive significand overflow, chars))) := by
    split_ifs
    · exact isLocal_pure (.ok _)
    · exact isLocal_pure (ofParts positive significand overflow)
  cases chars with
  | nil =>
    have unmarked : afterInteger positive significand overflow rest =
        if overflow = 0 then .ok (wholeNumber positive significand, rest)
        else (do pure (← ofParts positive significand overflow, rest)) := by
      cases rest with
      | nil => rfl
      | cons char rest =>
        obtain ⟨-, point, mark⟩ := stops char rfl
        simp [afterInteger, mark]
    rw [List.nil_append, unmarked]
    exact ended [] found left rest stops read
  | cons mark tail =>
    by_cases point : mark = '.'
    · subst point
      exact isLocal_fractionPart positive significand overflow tail found left rest stops read
    · simp only [afterInteger, List.cons_append] at read ⊢
      split at read
      · rename_i exponent
        rw [if_pos exponent]
        exact isLocal_exponentPart positive significand overflow tail found left rest stops read
      · rename_i other
        rw [if_neg other]
        exact ended (mark :: tail) found left rest stops read

/-- A zero in front stands alone. -/
theorem unsignedNumber_zero (positive : Bool) (tail : List Char)
    (alone : ∀ char ∈ tail.head?, isAsciiDigit char = false) :
    unsignedNumber positive ('0' :: tail) = afterInteger positive 0 0 tail := by
  cases tail with
  | nil => rfl
  | cons next tail => simp [unsignedNumber, alone next rfl]

theorem isLocal_unsignedNumber (positive : Bool) : IsLocal (unsignedNumber positive) := by
  intro chars found left rest stops read
  cases chars with
  | nil => cases read
  | cons first tail =>
    by_cases zero : first = '0'
    · subst zero
      have alone : ∀ char ∈ tail.head?, isAsciiDigit char = false := by
        rintro next inside
        obtain ⟨more, rfl⟩ := List.head?_eq_some_iff.mp inside
        simp only [unsignedNumber] at read
        split at read
        · cases read
        · simpa using ‹¬ isAsciiDigit next = true›
      have alonger : ∀ char ∈ (tail ++ rest).head?, isAsciiDigit char = false := by
        cases tail with
        | nil => exact fun char inside => (stops char inside).1
        | cons next tail => exact alone
      rw [unsignedNumber_zero positive tail alone] at read
      rw [List.cons_append, unsignedNumber_zero positive (tail ++ rest) alonger]
      exact isLocal_afterInteger positive 0 0 tail found left rest stops read
    · simp only [unsignedNumber, List.cons_append] at read ⊢
      rw [← List.cons_append, takeWhile_append_of_stops _ stops, dropWhile_append_of_stops _ stops]
      split at read
      · cases read
      · rename_i digit
        rw [if_neg digit]
        exact isLocal_afterInteger positive _ _ _ found left rest stops read

/-- A number is read alike in front of every text into which it does not go on. -/
theorem isLocal_number : IsLocal number := by
  intro chars found left rest stops read
  cases chars with
  | nil => cases read
  | cons first tail =>
    by_cases minus : first = '-'
    · subst minus
      exact isLocal_unsignedNumber false tail found left rest stops read
    · have unsigned (tail : List Char) :
          number (first :: tail) = unsignedNumber true (first :: tail) := by
        unfold number
        split <;> simp_all
      rw [unsigned] at read
      rw [List.cons_append, unsigned]
      exact isLocal_unsignedNumber true (first :: tail) found left rest stops read

/-- Digits are absorbed while their number fits. -/
theorem absorb_eq (digits : List Char) (start : Nat)
    (fits : Nat.ofDigitChars 10 digits start < 2 ^ 64) :
    absorb start digits = (Nat.ofDigitChars 10 digits start, []) := by
  induction digits generalizing start with
  | nil => rfl
  | cons digit rest inductionHypothesis =>
    rw [Nat.ofDigitChars_cons] at fits ⊢
    have grows : 10 * start + (digit.toNat - '0'.toNat) ≤
        Nat.ofDigitChars 10 rest (10 * start + (digit.toNat - '0'.toNat)) := by
      rw [Nat.ofDigitChars_eq_ofDigitChars_zero]
      have scale : 0 < 10 ^ rest.length := by positivity
      nlinarith
    have next : start * 10 + (digit.toNat - 48) = 10 * start + (digit.toNat - '0'.toNat) := by
      rw [Nat.mul_comm]
      rfl
    unfold absorb
    simp only [next, Nat.pow_eq]
    rw [if_pos (grows.trans_lt fits)]
    exact inductionHypothesis _ fits

/-- The digits of a natural number that fits a word. -/
theorem unsignedNumber_toDigits (positive : Bool) (magnitude : Nat) (fits : magnitude < 2 ^ 64) :
    unsignedNumber positive (Nat.toDigits 10 magnitude) =
      .ok (wholeNumber positive magnitude, []) := by
  by_cases zero : magnitude = 0
  · subst zero
    rfl
  · obtain ⟨first, rest, digits, leading⟩ := exists_toDigits_cons (Nat.pos_of_ne_zero zero)
    have digit {char : Char} (inside : char ∈ first :: rest) : isAsciiDigit char = true :=
      isAsciiDigit_of_mem_toDigits (digits ▸ inside)
    have whole : (first :: rest).takeWhile isAsciiDigit = first :: rest :=
      List.takeWhile_eq_self_iff.mpr fun _ => digit
    have nothing : (first :: rest).dropWhile isAsciiDigit = [] :=
      List.dropWhile_eq_nil_iff.mpr fun _ => digit
    have absorbed : absorb 0 (first :: rest) = (magnitude, []) := by
      have value : Nat.ofDigitChars 10 (first :: rest) 0 = magnitude := by
        rw [← digits, Nat.ofDigitChars_ten_toDigits]
      rw [absorb_eq _ 0 (by rwa [value]), value]
    rw [digits]
    simp only [unsignedNumber, whole, nothing, absorbed, digit List.mem_cons_self]
    rfl

/-- An integer that fits a word is read back. -/
theorem number_integer (value : Int) (low : -2 ^ 63 ≤ value) (high : value < 2 ^ 64) :
    number (Json.Number.integer value).chars = .ok (.integer value, []) := by
  rw [Json.Number.chars, toList_toString]
  have digits (positive : Bool) :=
    unsignedNumber_toDigits positive value.natAbs (by omega)
  split_ifs with sign
  · obtain ⟨first, rest, written⟩ := List.exists_cons_of_ne_nil
      (Nat.toDigits_ne_nil (n := value.natAbs) (b := 10))
    have digit : isAsciiDigit first = true :=
      isAsciiDigit_of_mem_toDigits (written ▸ List.mem_cons_self)
    have unsigned : number (Nat.toDigits 10 value.natAbs) =
        unsignedNumber true (Nat.toDigits 10 value.natAbs) := by
      rw [written]
      unfold number
      split
      · cases ‹first :: rest = _›
        cases digit
      · rfl
    rw [unsigned, digits]
    simp [wholeNumber, abs_of_nonneg sign]
  · change unsignedNumber false _ = _
    rw [digits, wholeNumber, if_neg (by decide), if_neg (by simp only [Nat.pow_eq]; omega)]
    congr 3
    omega

/-- A control character has two hexadecimal digits. -/
theorem unicodeEscape_control (char : Char) (control : char.toNat < 32) (rest : List Char) :
    unicodeEscape ('0' :: '0' :: Nat.digitChar (char.toNat / 16) ::
      Nat.digitChar (char.toNat % 16) :: rest) = .ok (char, rest) := by
  have hexadecimal : ∀ code < 32,
      let written := ['0', '0', Nat.digitChar (code / 16), Nat.digitChar (code % 16)]
      written.foldl (fun size char => size + char.utf8Size) 0 = 4 ∧
        digits? 16 written = some code := by decide
  obtain ⟨size, code⟩ := hexadecimal char.toNat control
  have escape : hexEscape ('0' :: '0' :: Nat.digitChar (char.toNat / 16) ::
      Nat.digitChar (char.toNat % 16) :: rest) = .ok (char.toNat, rest) := by
    simp only [hexEscape, List.take_succ_cons, List.take_zero, size, code]
    rfl
  rw [unicodeEscape, escape]
  change (if 0xDC00 ≤ char.toNat ∧ char.toNat ≤ 0xDFFF then _ else _) = _
  rw [if_neg (by omega), if_neg (by omega), Char.ofNat_toNat]
  rfl

/-- A character is written as it is, or its escape stands for it. -/
theorem escape_cases (char : Char) :
    (escape char = [char] ∧ char ≠ '"' ∧ char ≠ '\\' ∧ 32 ≤ char.toNat) ∨
      ∃ code, escape char = '\\' :: code ∧ ∀ rest, escaped (code ++ rest) = .ok (char, rest) := by
  unfold escape
  split
  case isTrue quote => exact .inr ⟨_, rfl, fun rest => by subst quote; rfl⟩
  rename_i quote
  split
  case isTrue backslash => exact .inr ⟨_, rfl, fun rest => by subst backslash; rfl⟩
  rename_i backslash
  split
  case isTrue backspace => exact .inr ⟨_, rfl, fun rest => by subst backspace; rfl⟩
  split
  case isTrue feed => exact .inr ⟨_, rfl, fun rest => by subst feed; rfl⟩
  split
  case isTrue line => exact .inr ⟨_, rfl, fun rest => by subst line; rfl⟩
  split
  case isTrue carriage => exact .inr ⟨_, rfl, fun rest => by subst carriage; rfl⟩
  split
  case isTrue tab => exact .inr ⟨_, rfl, fun rest => by subst tab; rfl⟩
  split
  case isTrue control => exact .inr ⟨_, rfl, unicodeEscape_control char control⟩
  case isFalse printable => exact .inl ⟨rfl, quote, backslash, not_lt.mp printable⟩

/-- One character of a string is read back. -/
theorem stringBody_escape (char : Char) (fuel : Nat) (chars : List Char) :
    stringBody (fuel + 1) (escape char ++ chars) = (do
      let (body, rest) ← stringBody fuel chars
      pure (char :: body, rest)) := by
  rcases escape_cases char with ⟨plain, quote, backslash, printable⟩ | ⟨code, written, read⟩
  · rw [plain, List.singleton_append]
    simp only [stringBody]
    rw [if_neg (not_lt.mpr printable)]
  · rw [written, List.cons_append]
    simp only [stringBody, read]
    rfl

/-- The characters of a string are read back up to its closing quote. -/
theorem stringBody_flatMap (text : List Char) (fuel : Nat) (rest : List Char)
    (enough : text.length < fuel) :
    stringBody fuel (text.flatMap escape ++ '"' :: rest) = .ok (text, rest) := by
  induction text generalizing fuel with
  | nil =>
    cases fuel with
    | zero => cases enough
    | succ fuel => rfl
  | cons char text inductionHypothesis =>
    cases fuel with
    | zero => cases enough
    | succ fuel =>
      rw [List.flatMap_cons, List.append_assoc, stringBody_escape,
        inductionHypothesis fuel (by simpa using enough)]
      rfl

theorem length_le_length_flatMap (text : List Char) :
    text.length ≤ (text.flatMap escape).length := by
  induction text with
  | nil => exact Nat.le_refl 0
  | cons char text inductionHypothesis =>
    have written : 1 ≤ (escape char).length := by
      rcases escape_cases char with ⟨plain, -⟩ | ⟨code, written, -⟩ <;> simp [*]
    rw [List.flatMap_cons, List.length_append, List.length_cons]
    omega

/-- A string is read back. -/
theorem stringRest_chars (text : String) (rest : List Char) :
    stringRest (text.toList.flatMap escape ++ '"' :: rest) = .ok (text, rest) := by
  have enough := length_le_length_flatMap text.toList
  rw [stringRest, stringBody_flatMap]
  · exact congrArg (fun text => Except.ok (text, rest)) String.ofList_toList
  · rw [List.length_append]
    omega

end Reduct.Json.Reader
