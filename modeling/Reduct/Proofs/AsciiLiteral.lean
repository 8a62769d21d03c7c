import Mathlib.Tactic
import Reduct.Proofs.Literal

namespace Reduct

namespace Text

/-- A fold that may fail succeeds when every item passes. -/
theorem isSome_foldl_bind {α β : Type} (next : α → β → Option α) (passes : β → Bool)
    (defined : ∀ value item, (next value item).isSome = passes item) (items : List β) (start : α) :
    (items.foldl (fun value item => value.bind (next · item)) (some start)).isSome =
      items.all passes := by
  have stuck (items : List β) :
      items.foldl (fun value item => value.bind (next · item)) none = none := by
    induction items with
    | nil => rfl
    | cons item rest inductionHypothesis => exact inductionHypothesis
  induction items generalizing start with
  | nil => rfl
  | cons item rest inductionHypothesis =>
      rw [List.foldl_cons, List.all_cons, Option.bind_some, ← defined start item]
      cases next start item with
      | none => rw [stuck, Option.isSome_none, Bool.false_and]
      | some value => rw [inductionHypothesis, Option.isSome_some, Bool.true_and]

def AllDigits (radix : Nat) (chars : List Char) : Prop :=
  ∀ char ∈ chars, (digit? radix char).isSome = true

theorem allDigits_append {radix : Nat} {first second : List Char} :
    AllDigits radix (first ++ second) ↔ AllDigits radix first ∧ AllDigits radix second :=
  List.forall_mem_append

theorem isSome_digits?_iff (radix : Nat) (chars : List Char) :
    (digits? radix chars).isSome = true ↔ AllDigits radix chars := by
  rw [digits?, isSome_foldl_bind (fun total char => (digit? radix char).map (total * radix + ·))
    (fun char => (digit? radix char).isSome) fun _ _ => Option.isSome_map, List.all_eq_true]
  rfl

theorem allDigits_of_digits? {radix count : Nat} {chars : List Char}
    (value : digits? radix chars = some count) : AllDigits radix chars :=
  (isSome_digits?_iff radix chars).mp (Option.isSome_of_eq_some value)

/-- The digits of a radix lie between the digit zero and the small letter z. -/
theorem toNat_of_isSome_digit? {radix : Nat} {char : Char}
    (digit : (digit? radix char).isSome = true) : 48 ≤ char.toNat ∧ char.toNat ≤ 122 := by
  by_contra outside
  rw [digit?, digitValue?, if_neg (by omega), if_neg (by omega), if_neg (by omega)] at digit
  cases digit

theorem toNat_lowerAscii (char : Char) :
    (lowerAscii char).toNat =
      if 65 ≤ char.toNat ∧ char.toNat ≤ 90 then char.toNat + 32 else char.toNat := by
  rw [lowerAscii]
  split_ifs with capital
  · rw [Char.ofNat, dif_pos (.inl (by omega))]
    rfl
  · rfl

/-- Small and capital letters are the same digits. -/
theorem digit?_lowerAscii (radix : Nat) (char : Char) :
    digit? radix (lowerAscii char) = digit? radix char := by
  have value : digitValue? (lowerAscii char) = digitValue? char := by
    simp only [digitValue?, toNat_lowerAscii]
    grind
  rw [digit?, digit?, value]

theorem toNat_lowerAscii_lt_iff (char : Char) :
    (lowerAscii char).toNat < 128 ↔ char.toNat < 128 := by
  rw [toNat_lowerAscii]
  split_ifs <;> omega

def IsAscii (chars : List Char) : Prop :=
  ∀ char ∈ chars, char.toNat < 128

theorem isAscii_nil : IsAscii [] :=
  List.forall_mem_nil _

theorem isAscii_cons {char : Char} {chars : List Char} :
    IsAscii (char :: chars) ↔ char.toNat < 128 ∧ IsAscii chars :=
  List.forall_mem_cons

theorem isAscii_append {first second : List Char} :
    IsAscii (first ++ second) ↔ IsAscii first ∧ IsAscii second :=
  List.forall_mem_append

theorem isAscii_map_lowerAscii {chars : List Char} :
    IsAscii (chars.map lowerAscii) ↔ IsAscii chars := by
  simp only [IsAscii, List.forall_mem_map, toNat_lowerAscii_lt_iff]

theorem AllDigits.isAscii {radix : Nat} {chars : List Char} (digits : AllDigits radix chars) :
    IsAscii chars :=
  fun char inside => (toNat_of_isSome_digit? (digits char inside)).2.trans_lt (by decide)

/-- Digits do not start with a character that is none. -/
theorem AllDigits.head?_ne {radix : Nat} {chars : List Char} (digits : AllDigits radix chars)
    {char : Char} (other : (digit? radix char).isSome = false) : chars.head? ≠ some char := by
  intro first
  rw [digits char (List.mem_of_head? first)] at other
  cases other

end Text

namespace Number

open Reduct.Text

theorem isSome_accumulate?_iff (radix : Nat) (chars : List Char) :
    (accumulate? radix chars).isSome = true ↔ AllDigits radix chars := by
  rw [accumulate?, isSome_foldl_bind
    (fun total char => (digit? radix char).map fun digit =>
      total * Float.ofNat radix + Float.ofNat digit)
    (fun char => (digit? radix char).isSome) fun _ _ => Option.isSome_map, List.all_eq_true]
  rfl

theorem exponent?_minus (digits : List Char) :
    exponent? ('-' :: digits) =
      if digits.isEmpty then none
      else (digits? 10 digits).map fun value : Nat => -(value : Int) := by
  rw [exponent?]
  cases digits? 10 digits <;> rfl

theorem exponent?_unsigned {chars : List Char} (plus : chars.head? ≠ some '+')
    (minus : chars.head? ≠ some '-') :
    exponent? chars = if chars.isEmpty then none else (digits? 10 chars).map Int.ofNat := by
  unfold exponent?
  split
  · exact absurd rfl minus
  · exact absurd rfl plus
  · rfl

/-- An exponent is digits after a sign that may be absent. -/
theorem isSome_exponent?_iff (chars : List Char) :
    (exponent? chars).isSome = true ↔
      ∃ sign digits, chars = sign ++ digits ∧ sign ∈ [[], ['+'], ['-']] ∧ digits ≠ [] ∧
        AllDigits 10 digits := by
  have read (digits : List Char) (convert : Nat → Int) :
      (if digits.isEmpty then none else (digits? 10 digits).map convert).isSome = true ↔
        digits ≠ [] ∧ AllDigits 10 digits := by
    rw [← isSome_digits?_iff]
    cases digits <;> simp
  constructor
  · intro accepted
    by_cases minus : chars.head? = some '-'
    · obtain ⟨digits, rfl⟩ := List.head?_eq_some_iff.mp minus
      rw [exponent?_minus] at accepted
      exact ⟨['-'], digits, rfl, by simp, (read _ _).mp accepted⟩
    · by_cases plus : chars.head? = some '+'
      · obtain ⟨digits, rfl⟩ := List.head?_eq_some_iff.mp plus
        exact ⟨['+'], digits, rfl, by simp, (read _ _).mp accepted⟩
      · rw [exponent?_unsigned plus minus] at accepted
        exact ⟨[], chars, rfl, by simp, (read _ _).mp accepted⟩
  · rintro ⟨sign, digits, rfl, signed, filled, all⟩
    simp only [List.mem_cons, List.not_mem_nil, or_false] at signed
    rcases signed with rfl | rfl | rfl
    · rw [List.nil_append, exponent?_unsigned (all.head?_ne rfl) (all.head?_ne rfl)]
      exact (read _ _).mpr ⟨filled, all⟩
    · exact (read _ _).mpr ⟨filled, all⟩
    · rw [List.singleton_append, exponent?_minus]
      exact (read _ _).mpr ⟨filled, all⟩

theorem isAscii_of_exponent? {chars : List Char} (read : (exponent? chars).isSome = true) :
    IsAscii chars := by
  obtain ⟨sign, digits, rfl, signed, -, all⟩ := (isSome_exponent?_iff chars).mp read
  refine isAscii_append.mpr ⟨?_, all.isAscii⟩
  simp only [List.mem_cons, List.not_mem_nil, or_false] at signed
  rcases signed with rfl | rfl | rfl <;> simp [IsAscii]

/-- What may follow the digits of a decimal: nothing, or an exponent after its mark. -/
def IsPower (chars : List Char) : Prop :=
  chars = [] ∨
    ∃ mark rest, chars = mark :: rest ∧ (mark = 'e' ∨ mark = 'E') ∧ (exponent? rest).isSome = true

theorem IsPower.isAscii {chars : List Char} (power : IsPower chars) : IsAscii chars := by
  obtain rfl | ⟨mark, rest, rfl, marked, read⟩ := power
  · exact isAscii_nil
  · refine isAscii_cons.mpr ⟨?_, isAscii_of_exponent? read⟩
    rcases marked with rfl | rfl <;> decide

/-- The exponent of a number starts with neither a digit nor a point. -/
theorem IsPower.head? {chars : List Char} (power : IsPower chars) :
    (∀ char ∈ chars.head?, isAsciiDigit char = false) ∧ chars.head? ≠ some '.' := by
  obtain rfl | ⟨mark, rest, rfl, rfl | rfl, -⟩ := power
  · simp
  · exact ⟨by rintro char ⟨⟩; rfl, by simp⟩
  · exact ⟨by rintro char ⟨⟩; rfl, by simp⟩

theorem allDigits_takeWhile (chars : List Char) :
    AllDigits 10 (chars.takeWhile isAsciiDigit) := by
  intro char inside
  have digit : isAsciiDigit char = true := List.mem_takeWhile_imp inside
  exact digit

/-- A run of digits ends where the next character is none. -/
theorem takeWhile_dropWhile_digits {chars : List Char} (digits : AllDigits 10 chars)
    (rest : List Char) (stop : ∀ char ∈ rest.head?, isAsciiDigit char = false) :
    (chars ++ rest).takeWhile isAsciiDigit = chars ∧
      (chars ++ rest).dropWhile isAsciiDigit = rest := by
  have all : ∀ char ∈ chars, isAsciiDigit char = true := digits
  have nothing : rest.takeWhile isAsciiDigit = [] ∧ rest.dropWhile isAsciiDigit = rest := by
    cases rest with
    | nil => exact ⟨rfl, rfl⟩
    | cons char rest => simp [stop char rfl]
  rw [List.takeWhile_append_of_pos all, List.dropWhile_append_of_pos all, nothing.1, nothing.2,
    List.append_nil]
  exact ⟨rfl, rfl⟩

/-- Digits without a point are a decimal with what may follow them. -/
theorem isSome_unsignedDecimal?_plain {chars : List Char}
    (plain : (chars.dropWhile isAsciiDigit).head? ≠ some '.') :
    (unsignedDecimal? chars).isSome = true ↔
      chars.takeWhile isAsciiDigit ≠ [] ∧ IsPower (chars.dropWhile isAsciiDigit) := by
  have digits := (isSome_digits?_iff 10 _).mpr (allDigits_takeWhile chars)
  obtain ⟨value, read⟩ := Option.isSome_iff_exists.mp digits
  unfold unsignedDecimal?
  generalize chars.takeWhile isAsciiDigit = whole at *
  cases behind : chars.dropWhile isAsciiDigit with
  | nil =>
      by_cases empty : whole = [] <;> simp [IsPower, empty, read]
  | cons mark rest =>
      rw [behind] at plain
      have point : mark ≠ '.' := by simpa using plain
      by_cases empty : whole = []
      · simp [empty, point]
      · by_cases marked : mark = 'e' ∨ mark = 'E'
        · cases power : exponent? rest <;> simp [IsPower, empty, point, read, marked, power]
        · simp [IsPower, empty, point, read, marked]

/-- Digits with a point are a decimal when there are any, with what may follow them. -/
theorem isSome_unsignedDecimal?_point {chars rest : List Char}
    (behind : chars.dropWhile isAsciiDigit = '.' :: rest) :
    (unsignedDecimal? chars).isSome = true ↔
      chars.takeWhile isAsciiDigit ++ rest.takeWhile isAsciiDigit ≠ [] ∧
        IsPower (rest.dropWhile isAsciiDigit) := by
  have all : AllDigits 10 (chars.takeWhile isAsciiDigit ++ rest.takeWhile isAsciiDigit) :=
    List.forall_mem_append.mpr ⟨allDigits_takeWhile chars, allDigits_takeWhile rest⟩
  obtain ⟨value, read⟩ := Option.isSome_iff_exists.mp ((isSome_digits?_iff 10 _).mpr all)
  unfold unsignedDecimal?
  simp only [behind]
  generalize chars.takeWhile isAsciiDigit = whole at *
  generalize rest.takeWhile isAsciiDigit = fraction at *
  by_cases empty : whole = [] ∧ fraction = []
  · simp [empty]
  · have filled : (whole.isEmpty && fraction.isEmpty) = false := by
      simpa using empty
    rw [filled, if_neg Bool.false_ne_true, read]
    cases rest.dropWhile isAsciiDigit with
    | nil => simpa [IsPower] using empty
    | cons mark later =>
        by_cases marked : mark = 'e' ∨ mark = 'E'
        · cases power : exponent? later
          · simp [IsPower, marked, power]
          · simpa [IsPower, marked, power] using empty
        · simp [IsPower, marked]

/-- An unsigned decimal is made of ASCII characters. -/
theorem isAscii_of_unsignedDecimal? {chars : List Char}
    (read : (unsignedDecimal? chars).isSome = true) : IsAscii chars := by
  have split (chars : List Char) :
      chars = chars.takeWhile isAsciiDigit ++ chars.dropWhile isAsciiDigit :=
    List.takeWhile_append_dropWhile.symm
  have digits (chars : List Char) : IsAscii (chars.takeWhile isAsciiDigit) :=
    (allDigits_takeWhile chars).isAscii
  rw [split chars]
  refine isAscii_append.mpr ⟨digits chars, ?_⟩
  by_cases point : (chars.dropWhile isAsciiDigit).head? = some '.'
  · obtain ⟨rest, behind⟩ := List.head?_eq_some_iff.mp point
    rw [behind, split rest]
    have power := ((isSome_unsignedDecimal?_point behind).mp read).2
    exact isAscii_cons.mpr ⟨by decide, isAscii_append.mpr ⟨digits rest, power.isAscii⟩⟩
  · exact ((isSome_unsignedDecimal?_plain point).mp read).2.isAscii

theorem isAscii_of_word? {chars : List Char} (read : (word? chars).isSome = true) :
    IsAscii chars := by
  rw [← isAscii_map_lowerAscii]
  rw [word?] at read
  split_ifs at read with infinite none
  · rcases infinite with same | same <;> rw [same] <;> simp [IsAscii]
  · rw [none]
    simp [IsAscii]
  · cases read

/-- A decimal is made of ASCII characters. -/
theorem isAscii_of_decimal? {chars : List Char} (read : (decimal? chars).isSome = true) :
    IsAscii chars := by
  have unsigned (rest : List Char)
      (read : ((word? rest).or (unsignedDecimal? rest)).isSome = true) : IsAscii rest := by
    rw [Option.isSome_or, Bool.or_eq_true] at read
    exact read.elim isAscii_of_word? isAscii_of_unsignedDecimal?
  unfold decimal? at read
  split at read
  · rw [Option.isSome_map] at read
    exact isAscii_cons.mpr ⟨by decide, unsigned _ read⟩
  · exact isAscii_cons.mpr ⟨by decide, unsigned _ read⟩
  · exact unsigned _ read

/-- The letters after a zero that name a radix. -/
def radixMarks : List (Char × Nat) :=
  [('b', 2), ('o', 8), ('x', 16)]

theorem toNat_lt_of_mem_radixMarks {mark : Char} {radix : Nat}
    (listed : (mark, radix) ∈ radixMarks) : mark.toNat < 128 := by
  simp only [radixMarks, List.mem_cons, Prod.mk.injEq, List.not_mem_nil, or_false] at listed
  rcases listed with ⟨rfl, -⟩ | ⟨rfl, -⟩ | ⟨rfl, -⟩ <;> decide

theorem radixMark?_eq_some_iff (chars digits : List Char) (radix : Nat) :
    radixMark? chars = some (radix, digits) ↔
      ∃ mark, (mark, radix) ∈ radixMarks ∧ chars = '0' :: mark :: digits := by
  constructor
  · intro marked
    unfold radixMark? at marked
    split at marked <;> cases marked
    · exact ⟨'b', by decide, rfl⟩
    · exact ⟨'o', by decide, rfl⟩
    · exact ⟨'x', by decide, rfl⟩
  · rintro ⟨mark, listed, rfl⟩
    simp only [radixMarks, List.mem_cons, Prod.mk.injEq, List.not_mem_nil, or_false] at listed
    rcases listed with ⟨rfl, rfl⟩ | ⟨rfl, rfl⟩ | ⟨rfl, rfl⟩ <;> rfl

/-- A text without a sign in front is a word or an unsigned decimal. -/
theorem decimal?_unsigned {chars : List Char} (plus : chars.head? ≠ some '+')
    (minus : chars.head? ≠ some '-') :
    decimal? chars = (word? chars).or (unsignedDecimal? chars) := by
  unfold decimal?
  split
  · exact absurd rfl minus
  · exact absurd rfl plus
  · rfl

/-- An unsigned decimal starts with a digit or a point. -/
theorem head?_ne_of_unsignedDecimal? {chars : List Char}
    (read : (unsignedDecimal? chars).isSome = true) {char : Char}
    (other : isAsciiDigit char = false) (point : char ≠ '.') : chars.head? ≠ some char := by
  intro starts
  obtain ⟨rest, rfl⟩ := List.head?_eq_some_iff.mp starts
  have nothing : (char :: rest).takeWhile isAsciiDigit = [] :=
    List.takeWhile_cons_of_neg (by simp [other])
  have whole : (char :: rest).dropWhile isAsciiDigit = char :: rest :=
    List.dropWhile_cons_of_neg (by simp [other])
  exact ((isSome_unsignedDecimal?_plain (by simp [whole, point])).mp read).1 nothing

/-- An unsigned decimal has no radix mark. -/
theorem radixMark?_of_unsignedDecimal? {chars : List Char}
    (read : (unsignedDecimal? chars).isSome = true) : radixMark? chars = none := by
  rw [Option.eq_none_iff_forall_not_mem]
  rintro ⟨radix, digits⟩ marked
  obtain ⟨mark, listed, rfl⟩ := (radixMark?_eq_some_iff _ _ _).mp marked
  have letter : isAsciiDigit mark = false ∧ mark ≠ '.' ∧ mark ≠ 'e' ∧ mark ≠ 'E' := by
    simp only [radixMarks, List.mem_cons, Prod.mk.injEq, List.not_mem_nil, or_false] at listed
    rcases listed with ⟨rfl, -⟩ | ⟨rfl, -⟩ | ⟨rfl, -⟩ <;> decide
  have behind : ('0' :: mark :: digits).dropWhile isAsciiDigit = mark :: digits := by
    rw [List.dropWhile_cons_of_pos rfl, List.dropWhile_cons_of_neg (by simp [letter.1])]
  obtain ⟨-, power⟩ := (isSome_unsignedDecimal?_plain (by simp [behind, letter.2.1])).mp read
  rw [behind] at power
  obtain ended | ⟨_, _, same, marked, -⟩ := power
  · cases ended
  · obtain ⟨rfl, -⟩ := List.cons.inj same
    rcases marked with rfl | rfl
    · exact letter.2.2.1 rfl
    · exact letter.2.2.2 rfl

/-- An unsigned decimal may follow a minus sign. -/
theorem isSome_decimal?_append {sign chars : List Char} (signed : sign ∈ [[], ['-']])
    (read : (unsignedDecimal? chars).isSome = true) :
    radixMark? (sign ++ chars) = none ∧ (decimal? (sign ++ chars)).isSome = true := by
  have accepted : ((word? chars).or (unsignedDecimal? chars)).isSome = true := by
    rw [Option.isSome_or, read, Bool.or_true]
  simp only [List.mem_cons, List.not_mem_nil, or_false] at signed
  rcases signed with rfl | rfl
  · rw [List.nil_append, decimal?_unsigned (head?_ne_of_unsignedDecimal? read rfl (by decide))
      (head?_ne_of_unsignedDecimal? read rfl (by decide))]
    exact ⟨radixMark?_of_unsignedDecimal? read, accepted⟩
  · refine ⟨rfl, ?_⟩
    show (((word? chars).or (unsignedDecimal? chars)).map Float.neg).isSome = true
    rw [Option.isSome_map, accepted]

/-- A literal is made of ASCII characters. -/
theorem isAscii_of_literal? {chars : List Char} (read : (literal? chars).isSome = true) :
    IsAscii chars := by
  rw [← isAscii_map_lowerAscii]
  rw [literal?] at read
  cases marked : radixMark? (chars.map lowerAscii) with
  | none =>
      rw [marked] at read
      exact isAscii_of_decimal? read
  | some parts =>
      obtain ⟨radix, digits⟩ := parts
      rw [marked] at read
      obtain ⟨mark, listed, same⟩ := (radixMark?_eq_some_iff _ _ _).mp marked
      have all := (isSome_accumulate?_iff radix digits).mp read
      rw [same, isAscii_cons, isAscii_cons]
      exact ⟨by decide, toNat_lt_of_mem_radixMarks listed, all.isAscii⟩

theorem map_lowerAscii_of_allDigits {chars : List Char} (digits : AllDigits 10 chars) :
    chars.map lowerAscii = chars :=
  (List.map_congr_left fun char inside => lowerAscii_of_isAsciiDigit (digits char inside)).trans
    (List.map_id _)

end Number

end Reduct
