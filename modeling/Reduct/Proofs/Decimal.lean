import Mathlib.Tactic
import Reduct.Text.Digit

namespace Reduct.Text

/-- The decimal digits are the codes from 48 to 57. -/
theorem isAsciiDigit_iff (char : Char) :
    isAsciiDigit char = true ↔ 48 ≤ char.toNat ∧ char.toNat ≤ 57 := by
  simp only [isAsciiDigit, digit?, digitValue?]
  split_ifs <;> simp <;> omega

/-- The value of a decimal digit. -/
theorem digit?_ten {char : Char} (digit : isAsciiDigit char = true) :
    digit? 10 char = some (char.toNat - '0'.toNat) := by
  obtain ⟨low, high⟩ := (isAsciiDigit_iff char).mp digit
  have code : '0'.toNat = 48 := rfl
  rw [digit?, digitValue?, if_pos ⟨low, high⟩, code]
  simp only [Option.filter_some, decide_eq_true_eq]
  rw [if_pos (by omega)]

theorem isAsciiDigit_of_isDigit {char : Char} (digit : char.isDigit = true) :
    isAsciiDigit char = true := by
  rw [isAsciiDigit_iff]
  simp only [Char.isDigit, Bool.and_eq_true, decide_eq_true_eq, ge_iff_le] at digit
  exact digit

/-- Every character of a decimal number is a digit. -/
theorem isAsciiDigit_of_mem_toDigits {number : Nat} {char : Char}
    (inside : char ∈ Nat.toDigits 10 number) : isAsciiDigit char = true :=
  isAsciiDigit_of_isDigit (Nat.isDigit_of_mem_toDigits (by decide) (by decide) inside)

/-- A run of digits that goes on from a value. -/
theorem foldl_digit?_ten (chars : List Char) (digits : ∀ char ∈ chars, isAsciiDigit char = true)
    (start : Nat) :
    chars.foldl (fun value char => value.bind fun total => (digit? 10 char).map (total * 10 + ·))
      (some start) = some (Nat.ofDigitChars 10 chars start) := by
  induction chars generalizing start with
  | nil => rfl
  | cons char rest inductionHypothesis =>
    rw [List.foldl_cons, Nat.ofDigitChars_cons, Option.bind_some,
      digit?_ten (digits char List.mem_cons_self), Option.map_some, Nat.mul_comm start 10]
    exact inductionHypothesis (fun char inside => digits char (List.mem_cons_of_mem _ inside)) _

/-- The digits of a natural number have its value. -/
theorem digits?_toDigits (number : Nat) : digits? 10 (Nat.toDigits 10 number) = some number := by
  have digits := foldl_digit?_ten (Nat.toDigits 10 number)
    (fun _ inside => isAsciiDigit_of_mem_toDigits inside) 0
  rwa [Nat.ofDigitChars_ten_toDigits] at digits

/-- A number other than zero has no zero in front. -/
theorem exists_toDigits_cons {number : Nat} (positive : 0 < number) :
    ∃ first rest, Nat.toDigits 10 number = first :: rest ∧ first ≠ '0' := by
  induction number using Nat.strongRecOn with
  | ind number inductionHypothesis =>
    by_cases small : number < 10
    · refine ⟨number.digitChar, [], Nat.toDigits_of_lt_base small, ?_⟩
      rw [Ne, Nat.digitChar_eq_zero]
      omega
    · obtain ⟨first, rest, digits, leading⟩ :=
        inductionHypothesis (number / 10) (by omega) (by omega)
      refine ⟨first, rest ++ [(number % 10).digitChar], ?_, leading⟩
      rw [Nat.toDigits_of_base_le (by decide) (by omega), digits, List.cons_append]

/-- The text of an integer is the digits of its magnitude after its sign. -/
theorem toList_toString (value : Int) :
    (toString value).toList =
      if 0 ≤ value then Nat.toDigits 10 value.natAbs else '-' :: Nat.toDigits 10 value.natAbs := by
  rw [Int.toString_eq_repr, Int.repr_eq_if]
  split_ifs with sign
  · rw [Nat.toList_repr, show value.toNat = value.natAbs by omega]
  · rw [String.toList_append, Nat.toList_repr, show (-value).toNat = value.natAbs by omega]
    rfl

/-- A minus sign or a digit, with which a decimal number starts. -/
def StartsNumber (char : Char) : Prop :=
  char = '-' ∨ isAsciiDigit char = true

/-- A character that starts a number differs from every other one. -/
theorem StartsNumber.ne {first : Char} (starts : StartsNumber first) (char : Char)
    (outside : char.toNat ≠ 45 ∧ (char.toNat < 48 ∨ 57 < char.toNat)) : first ≠ char := by
  rintro rfl
  rw [StartsNumber, isAsciiDigit_iff] at starts
  rcases starts with rfl | digit
  · exact outside.1 rfl
  · omega

/-- The text of an integer is made of a sign and digits. -/
theorem startsNumber_of_mem_toString {value : Int} {char : Char}
    (inside : char ∈ (toString value).toList) : StartsNumber char := by
  rw [toList_toString] at inside
  split_ifs at inside
  · exact .inr (isAsciiDigit_of_mem_toDigits inside)
  · rcases List.mem_cons.mp inside with sign | digit
    · exact .inl sign
    · exact .inr (isAsciiDigit_of_mem_toDigits digit)

theorem toString_ne_nil (value : Int) : (toString value).toList ≠ [] := by
  rw [toList_toString]
  split_ifs
  · exact Nat.toDigits_ne_nil
  · exact List.cons_ne_nil _ _

end Reduct.Text
