import Mathlib.Data.List.TakeWhile
import Mathlib.Tactic
import Reduct.Number.Literal
import Reduct.Proofs.Decimal

namespace Reduct.Number

open Reduct.Text

theorem lowerAscii_of_isAsciiDigit {char : Char} (digit : isAsciiDigit char = true) :
    lowerAscii char = char := by
  obtain ⟨-, high⟩ := (isAsciiDigit_iff char).mp digit
  rw [lowerAscii, if_neg (by omega)]

theorem map_lowerAscii_toDigits (magnitude : Nat) :
    (Nat.toDigits 10 magnitude).map lowerAscii = Nat.toDigits 10 magnitude :=
  (List.map_congr_left fun _ inside =>
    lowerAscii_of_isAsciiDigit (isAsciiDigit_of_mem_toDigits inside)).trans (List.map_id _)

/-- A natural number of at most four hundred digits is its own nearest decimal. -/
theorem ofDecimal_zero (magnitude : Nat) (short : (Nat.toDigits 10 magnitude).length ≤ 400) :
    ofDecimal magnitude 0 = Float.ofNat magnitude := by
  by_cases zero : magnitude = 0
  · subst zero
    decide +kernel
  · simp only [ofDecimal]
    rw [if_neg (by omega), if_neg (by omega)]
    rfl

/-- Digits are no word. -/
theorem word?_toDigits (magnitude : Nat) : word? (Nat.toDigits 10 magnitude) = none := by
  obtain ⟨first, tail, digits⟩ := List.exists_cons_of_ne_nil
    (Nat.toDigits_ne_nil (n := magnitude) (b := 10))
  have starts : StartsNumber first :=
    .inr (isAsciiDigit_of_mem_toDigits (digits ▸ List.mem_cons_self))
  simp only [word?, map_lowerAscii_toDigits]
  rw [digits]
  simp [starts.ne 'i' (by decide), starts.ne 'n' (by decide)]

/-- Digits alone are a decimal without a point or an exponent. -/
theorem unsignedDecimal?_toDigits (magnitude : Nat) :
    unsignedDecimal? (Nat.toDigits 10 magnitude) = some (ofDecimal magnitude 0) := by
  have digit (char : Char) (inside : char ∈ Nat.toDigits 10 magnitude) :
      isAsciiDigit char = true := isAsciiDigit_of_mem_toDigits inside
  have whole := List.takeWhile_eq_self_iff.mpr digit
  have nothing := List.dropWhile_eq_nil_iff.mpr digit
  simp [unsignedDecimal?, whole, nothing, Nat.toDigits_ne_nil, digits?_toDigits]

/-- Digits have no radix mark. -/
theorem radixMark?_toDigits (magnitude : Nat) : radixMark? (Nat.toDigits 10 magnitude) = none := by
  have digit (char : Char) (inside : char ∈ Nat.toDigits 10 magnitude) :
      isAsciiDigit char = true := isAsciiDigit_of_mem_toDigits inside
  unfold radixMark?
  split
  · exact absurd (digit 'b' (by simp [*])) (by decide)
  · exact absurd (digit 'o' (by simp [*])) (by decide)
  · exact absurd (digit 'x' (by simp [*])) (by decide)
  · rfl

/-- Digits are read as their natural number. -/
theorem decimal?_toDigits (magnitude : Nat) (short : (Nat.toDigits 10 magnitude).length ≤ 400) :
    decimal? (Nat.toDigits 10 magnitude) = some (Float.ofNat magnitude) ∧
      decimal? ('-' :: Nat.toDigits 10 magnitude) = some (Float.neg (Float.ofNat magnitude)) := by
  have digit (char : Char) (inside : char ∈ Nat.toDigits 10 magnitude) :
      isAsciiDigit char = true := isAsciiDigit_of_mem_toDigits inside
  have read : (word? (Nat.toDigits 10 magnitude)).or
      (unsignedDecimal? (Nat.toDigits 10 magnitude)) = some (Float.ofNat magnitude) := by
    rw [word?_toDigits, unsignedDecimal?_toDigits, ofDecimal_zero magnitude short, Option.none_or]
  constructor
  · unfold decimal?
    split
    · exact absurd (digit '-' (by simp [*])) (by decide)
    · exact absurd (digit '+' (by simp [*])) (by decide)
    · exact read
  · exact congrArg (Option.map Float.neg) read

/-- The decimal text of an integer below `2 ^ 53` is a literal of its double. -/
theorem literal?_toString (value : Int) (small : value.natAbs < 2 ^ 53) :
    literal? (toString value).toList = some (Float.ofInt value) := by
  have short : (Nat.toDigits 10 value.natAbs).length ≤ 400 := by
    have sixteen : (Nat.toDigits 10 value.natAbs).length ≤ 16 := by
      rw [Nat.length_toDigits_le_iff (by decide) (by decide)]
      omega
    omega
  obtain ⟨unsigned, signed⟩ := decimal?_toDigits value.natAbs short
  rw [toList_toString, literal?]
  split_ifs with sign
  · rw [map_lowerAscii_toDigits, radixMark?_toDigits]
    obtain ⟨magnitude, rfl⟩ := Int.eq_ofNat_of_zero_le sign
    exact unsigned
  · rw [List.map_cons, map_lowerAscii_toDigits]
    obtain ⟨predecessor, rfl⟩ := Int.eq_negSucc_of_lt_zero (not_le.mp sign)
    exact signed

end Reduct.Number
