import Mathlib.Tactic
import Reduct.Proofs.AsciiLiteral
import Reduct.Proofs.NearestDouble
/-! This file adds up the digits of a radix in doubles. The total is the double nearest to the
number, unless a tie is rounded before the digits that would break it. -/

namespace Reduct

namespace Rounding

/-- The number that places stand for after a start. -/
def positional (radix start : Nat) (places : List Nat) : Nat :=
  places.foldl (fun total place => total * radix + place) start

/-- The total of places when it is rounded after every place. -/
def stepwise (radix start : Nat) (places : List Nat) : Nat :=
  places.foldl (fun total place => nearest (total * radix + place)) start

theorem positional_append (radix start : Nat) (front back : List Nat) :
    positional radix start (front ++ back) = positional radix (positional radix start front) back :=
  List.foldl_append

theorem stepwise_append (radix start : Nat) (front back : List Nat) :
    stepwise radix start (front ++ back) = stepwise radix (stepwise radix start front) back :=
  List.foldl_append

/-- The start stands in front of the places. -/
theorem positional_eq (radix start : Nat) (places : List Nat) :
    positional radix start places =
      start * radix ^ places.length + positional radix 0 places := by
  induction places generalizing start with
  | nil => rw [List.length_nil, pow_zero, Nat.mul_one]; rfl
  | cons place rest inductionHypothesis =>
      change positional radix (start * radix + place) rest =
        _ + positional radix (0 * radix + place) rest
      rw [inductionHypothesis, inductionHypothesis (0 * radix + place), List.length_cons]
      ring

theorem positional_lt (radix : Nat) (places : List Nat) (short : ∀ place ∈ places, place < radix) :
    positional radix 0 places < radix ^ places.length := by
  induction places with
  | nil => exact Nat.one_pos
  | cons place rest inductionHypothesis =>
      rw [List.forall_mem_cons] at short
      have below := inductionHypothesis short.2
      have room := Nat.mul_le_mul_right (radix ^ rest.length) (Nat.succ_le_of_lt short.1)
      change positional radix (0 * radix + place) rest < _
      rw [positional_eq, Nat.zero_mul, Nat.zero_add, List.length_cons, Nat.pow_succ']
      rw [Nat.succ_mul] at room
      omega

theorem le_positional (radix start : Nat) (positive : 0 < radix) (places : List Nat) :
    start ≤ positional radix start places := by
  rw [positional_eq]
  exact le_add_right (Nat.le_mul_of_pos_right start (by positivity))

/-- Nothing is rounded below `2 ^ 53`. -/
theorem stepwise_of_lt (radix start : Nat) (positive : 0 < radix) (places : List Nat)
    (small : positional radix start places < 2 ^ 53) :
    stepwise radix start places = positional radix start places := by
  induction places generalizing start with
  | nil => rfl
  | cons place rest inductionHypothesis =>
      have total : start * radix + place < 2 ^ 53 :=
        (le_positional radix (start * radix + place) positive rest).trans_lt small
      change stepwise radix (nearest (start * radix + place)) rest = _
      rw [nearest_of_lt _ total, inductionHypothesis _ small]
      rfl

/-- The places behind a long double are lost. -/
theorem stepwise_of_isLong (bits start : Nat) (long : IsLong start) (places : List Nat)
    (short : ∀ place ∈ places, place < 2 ^ bits) :
    stepwise (2 ^ bits) start places = start * (2 ^ bits) ^ places.length := by
  induction places generalizing start with
  | nil => rw [List.length_nil, pow_zero, Nat.mul_one]; rfl
  | cons place rest inductionHypothesis =>
      rw [List.forall_mem_cons] at short
      change stepwise (2 ^ bits) (nearest (start * 2 ^ bits + place)) rest = _
      rw [long.nearest_append place bits short.1, inductionHypothesis _ (long.mul bits) short.2,
        List.length_cons, Nat.pow_succ', Nat.mul_assoc]

/-- The places in front that reach `2 ^ 53` first. -/
def Crosses (radix : Nat) (front : List Nat) : Prop :=
  2 ^ 53 ≤ positional radix 0 front ∧ positional radix 0 front < radix * 2 ^ 53

theorem exists_crosses (radix start : Nat) (places : List Nat)
    (short : ∀ place ∈ places, place < radix) (small : start < 2 ^ 53)
    (large : 2 ^ 53 ≤ positional radix start places) :
    ∃ front back, places = front ++ back ∧ 2 ^ 53 ≤ positional radix start front ∧
      positional radix start front < radix * 2 ^ 53 := by
  induction places generalizing start with
  | nil => exact absurd small (Nat.not_lt.mpr large)
  | cons place rest inductionHypothesis =>
      rw [List.forall_mem_cons] at short
      -- The front ends with the first total that is not below `2 ^ 53`.
      by_cases below : start * radix + place < 2 ^ 53
      · obtain ⟨front, back, rfl, reached, first⟩ :=
          inductionHypothesis (start * radix + place) short.2 below large
        exact ⟨place :: front, back, rfl, reached, first⟩
      · refine ⟨[place], rest, rfl, Nat.le_of_not_lt below, ?_⟩
        change start * radix + place < _
        have room := Nat.mul_le_mul_left radix (Nat.succ_le_of_lt small)
        rw [Nat.mul_succ, Nat.mul_comm] at room
        omega

/-- One rounding is made when the total reaches `2 ^ 53`. -/
theorem stepwise_of_crosses (radix : Nat) (front : List Nat) (crosses : Crosses radix front) :
    stepwise radix 0 front = nearest (positional radix 0 front) := by
  obtain ⟨reached, first⟩ := crosses
  have positive : 0 < radix := by
    by_contra zero
    rw [Nat.eq_zero_of_not_pos zero, Nat.zero_mul] at first
    exact Nat.not_lt_zero _ first
  rcases List.eq_nil_or_concat' front with rfl | ⟨init, last, rfl⟩
  · exact absurd (show 2 ^ 53 ≤ 0 from reached) (by norm_num)
  · rw [positional_append] at first ⊢
    change positional radix 0 init * radix + last < _ at first
    have below : positional radix 0 init < 2 ^ 53 := by
      apply Nat.lt_of_mul_lt_mul_left (a := radix)
      rw [Nat.mul_comm]
      omega
    rw [stepwise_append, stepwise_of_lt radix 0 positive init below]
    rfl

/-- The total of all places is the nearest double, unless a tie comes before the places that would
break it. -/
theorem stepwise_eq_nearest_iff (bits : Nat) (front back : List Nat)
    (crosses : Crosses (2 ^ bits) front) (short : ∀ place ∈ back, place < 2 ^ bits) :
    stepwise (2 ^ bits) 0 (front ++ back) = nearest (positional (2 ^ bits) 0 (front ++ back)) ↔
      ¬ (IsLowerTie (positional (2 ^ bits) 0 front) (excess (positional (2 ^ bits) 0 front)) ∧
        positional (2 ^ bits) 0 back ≠ 0) := by
  have below := positional_lt (2 ^ bits) back short
  rw [← Nat.pow_mul] at below
  rw [stepwise_append, stepwise_of_crosses _ front crosses,
    stepwise_of_isLong bits _ (isLong_nearest _ crosses.1) back short, positional_append,
    positional_eq _ (positional _ 0 front), ← Nat.pow_mul, eq_comm]
  exact nearest_append _ _ _ crosses.1 below

/-- Rounding at every place at most doubles the total. -/
theorem stepwise_le (bits : Nat) (places : List Nat) (short : ∀ place ∈ places, place < 2 ^ bits) :
    stepwise (2 ^ bits) 0 places ≤ 2 * positional (2 ^ bits) 0 places := by
  by_cases small : positional (2 ^ bits) 0 places < 2 ^ 53
  · rw [stepwise_of_lt _ 0 (Nat.two_pow_pos bits) places small]
    omega
  · obtain ⟨front, back, rfl, crosses⟩ :=
      exists_crosses (2 ^ bits) 0 places short (by decide) (Nat.le_of_not_lt small)
    rw [List.forall_mem_append] at short
    rw [stepwise_append, stepwise_of_crosses _ front crosses,
      stepwise_of_isLong bits _ (isLong_nearest _ crosses.1) back short.2, positional_append,
      positional_eq _ (positional _ 0 front), Nat.mul_add, ← Nat.mul_assoc]
    exact le_add_right (Nat.mul_le_mul_right _ (nearest_le _))

end Rounding

namespace Text

open Rounding

/-- The values of the digits of a radix. -/
def places (radix : Nat) (chars : List Char) : List Nat :=
  chars.map fun char => (digit? radix char).getD 0

theorem places_append (radix : Nat) (first second : List Char) :
    places radix (first ++ second) = places radix first ++ places radix second :=
  List.map_append

theorem lt_of_digit? {radix digit : Nat} {char : Char} (value : digit? radix char = some digit) :
    digit < radix := by
  obtain ⟨-, below⟩ := Option.filter_eq_some_iff.mp value
  exact of_decide_eq_true below

theorem AllDigits.places_lt {radix : Nat} {chars : List Char} (digits : AllDigits radix chars) :
    ∀ place ∈ places radix chars, place < radix := by
  intro place inside
  obtain ⟨char, member, rfl⟩ := List.mem_map.mp inside
  obtain ⟨digit, value⟩ := Option.isSome_iff_exists.mp (digits char member)
  rw [value, Option.getD_some]
  exact lt_of_digit? value

/-- A fold over digits is one over their values. -/
theorem AllDigits.foldl_eq {α : Type} {radix : Nat} {chars : List Char}
    (digits : AllDigits radix chars) (next : α → Nat → α) (start : α) :
    chars.foldl (fun value char => value.bind fun total => (digit? radix char).map (next total))
      (some start) = some ((places radix chars).foldl next start) := by
  induction chars generalizing start with
  | nil => rfl
  | cons char rest inductionHypothesis =>
      rw [AllDigits, List.forall_mem_cons] at digits
      obtain ⟨digit, value⟩ := Option.isSome_iff_exists.mp digits.1
      change _ = some ((places radix rest).foldl next (next start ((digit? radix char).getD 0)))
      rw [List.foldl_cons, Option.bind_some, value, Option.map_some,
        inductionHypothesis digits.2, Option.getD_some]

theorem AllDigits.digits?_eq {radix : Nat} {chars : List Char} (digits : AllDigits radix chars) :
    digits? radix chars = some (positional radix 0 (places radix chars)) :=
  digits.foldl_eq (fun total digit => total * radix + digit) 0

end Text

namespace Number

open Float.Model Float.Model.UnpackedFloat Rounding Packing Reduct.Text

/-- The total of places in doubles. -/
def accumulated (radix : Nat) (places : List Nat) : Float :=
  places.foldl (fun total place => total * Float.ofNat radix + Float.ofNat place) 0.0

theorem accumulate?_eq {radix : Nat} {chars : List Char} (digits : AllDigits radix chars) :
    accumulate? radix chars = some (accumulated radix (places radix chars)) :=
  digits.foldl_eq (fun total digit => total * Float.ofNat radix + Float.ofNat digit) 0.0

theorem isCount_ofNat (count : Nat) (small : count < 2 ^ 53) :
    IsCount (Float.ofNat count) count := by
  have near := (isNear_ofNat count).isCount (small.trans (by norm_num))
  rwa [nearest_of_lt count small] at near

theorem infinite_mul {total : Float} (infinite : total.toModel.unpack = .infinity .positive)
    {factor : Float} {count : Nat} (holds : IsCount factor count) (positive : 0 < count) :
    (total * factor).toModel.unpack = .infinity .positive := by
  obtain ⟨mantissa, exponent, nonzero, unpacks, -⟩ := holds.finite positive
  change (Float.Model.pack (UnpackedFloat.mul Format.binary64 total.toModel.unpack
    factor.toModel.unpack)).unpack = _
  rw [infinite, unpacks]
  exact unpack_pack_infinity .positive

theorem infinite_add_count {total : Float} (infinite : total.toModel.unpack = .infinity .positive)
    {term : Float} {count : Nat} (holds : IsCount term count) :
    (total + term).toModel.unpack = .infinity .positive := by
  change (Float.Model.pack (UnpackedFloat.add Format.binary64 total.toModel.unpack
    term.toModel.unpack)).unpack = _
  rcases Nat.eq_zero_or_pos count with rfl | positive
  · rw [infinite, (isCount_zero_iff term).mp holds]
    exact unpack_pack_infinity .positive
  · obtain ⟨mantissa, exponent, nonzero, unpacks, -⟩ := holds.finite positive
    rw [infinite, unpacks]
    exact unpack_pack_infinity .positive

/-- The next place rounds the total once. -/
theorem IsCount.next {total : Float} {count : Nat} (holds : IsCount total count) (bits place : Nat)
    (low : bits < 53) (short : place < 2 ^ 53) :
    IsNear (total * Float.ofNat (2 ^ bits) + Float.ofNat place) (count * 2 ^ bits + place) := by
  have factor := isCount_ofNat (2 ^ bits) (Nat.pow_lt_pow_right one_lt_two low)
  have term := isCount_ofNat place short
  rcases holds.mul factor (Nat.two_pow_pos bits) with ⟨infinite, large⟩ | product
  · exact Or.inl ⟨infinite_add_count infinite term, le_add_right large⟩
  · rw [nearest_mul, holds.nearest] at product
    exact product.add term

/-- A double that is infinite or holds a count. -/
def IsTotal (value : Float) : Prop :=
  value.toModel.unpack = .infinity .positive ∨ ∃ count, IsCount value count

theorem IsNear.isTotal {value : Float} {whole : Nat} (near : IsNear value whole) :
    IsTotal value := by
  rcases near with ⟨infinite, -⟩ | counted
  · exact Or.inl infinite
  · exact Or.inr ⟨_, counted⟩

theorem isCount_zero : IsCount 0.0 0 :=
  (isCount_zero_iff 0.0).mpr rfl

theorem IsTotal.next {total : Float} (holds : IsTotal total) (bits place : Nat) (low : bits < 53)
    (short : place < 2 ^ 53) :
    IsTotal (total * Float.ofNat (2 ^ bits) + Float.ofNat place) := by
  rcases holds with infinite | ⟨count, holds⟩
  · have factor := isCount_ofNat (2 ^ bits) (Nat.pow_lt_pow_right one_lt_two low)
    exact Or.inl (infinite_add_count (infinite_mul infinite factor (Nat.two_pow_pos bits))
      (isCount_ofNat place short))
  · exact (holds.next bits place low short).isTotal

theorem IsTotal.ne_notANumber {value : Float} (holds : IsTotal value) : value ≠ notANumber := by
  have undefined : notANumber.toModel.unpack = .notANumber := rfl
  rintro rfl
  rcases holds with infinite | ⟨count, whole, -⟩
  · rw [undefined] at infinite
    cases infinite
  · rw [undefined] at whole
    exact whole

/-- The total of places is infinite or holds a count. -/
theorem isTotal_accumulated (bits : Nat) (low : bits < 53) (places : List Nat)
    (short : ∀ place ∈ places, place < 2 ^ bits) : IsTotal (accumulated (2 ^ bits) places) := by
  have small : 2 ^ bits < 2 ^ 53 := Nat.pow_lt_pow_right one_lt_two low
  have general (start : Float) (started : IsTotal start) : IsTotal (places.foldl
      (fun total place => total * Float.ofNat (2 ^ bits) + Float.ofNat place) start) := by
    induction places generalizing start with
    | nil => exact started
    | cons place rest inductionHypothesis =>
        rw [List.forall_mem_cons] at short
        exact inductionHypothesis short.2 _ (started.next bits place low (short.1.trans small))
  exact general 0.0 (Or.inr ⟨0, isCount_zero⟩)

/-- The total of places in doubles holds the number that is rounded after every place. -/
theorem isCount_accumulated (bits : Nat) (low : bits < 53) (places : List Nat)
    (short : ∀ place ∈ places, place < 2 ^ bits)
    (small : positional (2 ^ bits) 0 places < 2 ^ 64) :
    IsCount (accumulated (2 ^ bits) places) (stepwise (2 ^ bits) 0 places) := by
  have radix : 2 ^ bits < 2 ^ 53 := Nat.pow_lt_pow_right one_lt_two low
  -- From the end, the bound on the number is one on every total before it.
  induction places using List.reverseRecOn with
  | nil => exact isCount_zero
  | append_singleton init last inductionHypothesis =>
      rw [List.forall_mem_append, List.forall_mem_singleton] at short
      rw [positional_append] at small
      have before := (le_positional (2 ^ bits) _ (Nat.two_pow_pos bits) [last]).trans_lt small
      have bound := stepwise_le bits init short.1
      rw [accumulated, List.foldl_append, stepwise_append]
      apply ((inductionHypothesis short.1 before).next bits last low (short.2.trans radix)).isCount
      have product : stepwise (2 ^ bits) 0 init * 2 ^ bits ≤ 2 ^ 65 * 2 ^ 53 :=
        Nat.mul_le_mul (by omega) radix.le
      omega

end Number

end Reduct
