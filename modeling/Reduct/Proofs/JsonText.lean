import Mathlib.Tactic
import Reduct.Proofs.JsonScalar

namespace Reduct

namespace Entries

variable {α : Type*}

/-- A key after all others enters at the end. -/
theorem insert_eq_append (key : String) (value : α) (entries : List (String × α))
    (last : ∀ entry ∈ entries, entry.1 < key) :
    insert key value entries = entries ++ [(key, value)] := by
  induction entries with
  | nil => rfl
  | cons entry entries inductionHypothesis =>
    have before : entry.1 < key := last entry List.mem_cons_self
    rw [insert, if_neg (String.lt_asymm before), if_neg (String.ne_of_lt before).symm,
      inductionHypothesis fun entry inside => last entry (List.mem_cons_of_mem _ inside)]
    rfl

/-- Ordered entries are in order on either side of a place, and across it. -/
theorem ordered_append (first second : List (String × α)) :
    Ordered (first ++ second) ↔ Ordered first ∧ Ordered second ∧
      ∀ left ∈ first, ∀ right ∈ second, left.1 < right.1 := by
  simp only [Ordered, keys, List.map_append, List.pairwise_append, List.mem_map]
  aesop

end Entries

namespace Json

mutual

/-- The depth of the arrays and objects of a value. -/
def nesting : Json → Nat
  | .null => 0
  | .bool _ => 0
  | .number _ => 0
  | .string _ => 0
  | .array items => nestingItems items + 1
  | .object members => nestingMembers members + 1

def nestingItems : List Json → Nat
  | [] => 0
  | item :: rest => max (nesting item) (nestingItems rest)

def nestingMembers : List (String × Json) → Nat
  | [] => 0
  | (_, value) :: rest => max (nesting value) (nestingMembers rest)

end

/-- A value whose text stands for it alone: its integers fit a word, its doubles are read back, and
its keys are in order. -/
inductive IsWritable : Json → Prop
  | null : IsWritable .null
  | bool (value : Bool) : IsWritable (.bool value)
  | integer (value : Int) (low : -2 ^ 63 ≤ value) (high : value < 2 ^ 64) :
      IsWritable (.number (.integer value))
  | real (value : Float) (read : Reader.number (floatChars value) = .ok (.real value, [])) :
      IsWritable (.number (.real value))
  | string (text : String) : IsWritable (.string text)
  | array (items : List Json) (each : ∀ item ∈ items, IsWritable item) : IsWritable (.array items)
  | object (members : List (String × Json)) (ordered : Entries.Ordered members)
      (each : ∀ member ∈ members, IsWritable member.2) : IsWritable (.object members)

namespace Reader

open Reduct.Text

/-- What is read when nesting beyond a depth is refused. -/
def limited {α : Type} (depth nesting : Nat) (found : α) : Except Fault α :=
  if nesting ≤ depth then .ok found else .error .recursionLimit

/-- A value is read back in front of any text into which no number goes on. -/
def ReadsBack (depth : Nat) (json : Json) : Prop :=
  ∀ rest, Stops rest → value depth (json.chars ++ rest) = limited depth json.nesting (json, rest)

theorem limited_of_le {α : Type} {depth nesting : Nat} (fits : nesting ≤ depth) (found : α) :
    limited depth nesting found = .ok found :=
  if_pos fits

theorem limited_of_lt {α : Type} {depth nesting : Nat} (deep : depth < nesting) (found : α) :
    limited depth nesting found = .error .recursionLimit :=
  if_neg (not_le.mpr deep)

/-- What is read next fails, too, when it is nested too deeply. -/
theorem limited_bind {α β : Type} {depth nesting later : Nat} {found : α} {result : β}
    {next : α → Except Fault β} (after : next found = limited depth later result) :
    limited depth nesting found >>= next = limited depth (max nesting later) result := by
  by_cases fits : nesting ≤ depth
  · rw [limited_of_le fits]
    change next found = _
    rw [after]
    simp [limited, fits]
  · rw [limited_of_lt (not_le.mp fits),
      limited_of_lt ((not_le.mp fits).trans_le (le_max_left _ _))]
    rfl

theorem limited_map {α β : Type} (depth nesting : Nat) (found : α) (next : α → β) :
    (do pure (next (← limited depth nesting found))) = limited depth nesting (next found) := by
  unfold limited
  split_ifs <;> rfl

theorem limited_succ {α : Type} (depth nesting : Nat) (found : α) :
    limited (depth + 1) (nesting + 1) found = limited depth nesting found := by
  simp [limited]

/-- The first character of a number. -/
theorem exists_cons_of_number {chars left : List Char} {found : Json.Number}
    (read : number chars = .ok (found, left)) :
    ∃ first tail, chars = first :: tail ∧ StartsNumber first := by
  cases chars with
  | nil => cases read
  | cons first tail =>
    refine ⟨first, tail, rfl, ?_⟩
    by_contra other
    obtain ⟨minus, digit⟩ := not_or.mp other
    have zero : first ≠ '0' := by
      rintro rfl
      exact digit rfl
    unfold number at read
    split at read
    · simp_all
    · unfold unsignedNumber at read
      split at read <;> simp_all

theorem isSpace_of_starts {first : Char} (starts : StartsNumber first) :
    isSpace first = false := by
  simp [isSpace, starts.ne ' ' (by decide), starts.ne '\n' (by decide),
    starts.ne '\t' (by decide), starts.ne '\r' (by decide)]

theorem skipSpace_cons {first : Char} (nonblank : isSpace first = false) (tail : List Char) :
    skipSpace (first :: tail) = first :: tail := by
  simp [skipSpace, nonblank]

/-- A character that starts a number starts no other value. -/
theorem value_cons_of_starts (depth : Nat) {first : Char} (tail : List Char)
    (starts : StartsNumber first) :
    value depth (first :: tail) = (do
      let (found, rest) ← number (first :: tail)
      pure (.number found, rest)) := by
  have other := starts.ne
  have plain : scalar (first :: tail) = (do
      let (found, rest) ← number (first :: tail)
      pure (.number found, rest)) := by
    unfold scalar
    split
    case h_6 => exact if_pos (by simp_all [StartsNumber])
    all_goals simp_all
  unfold value
  rw [skipSpace_cons (isSpace_of_starts starts)]
  split
  · simp_all
  · simp_all
  · exact plain

/-- A number is read back. -/
theorem value_number (depth : Nat) {chars rest : List Char} {found : Json.Number}
    (read : number chars = .ok (found, [])) (stops : Stops rest) :
    value depth (chars ++ rest) = .ok (.number found, rest) := by
  obtain ⟨first, tail, rfl, starts⟩ := exists_cons_of_number read
  have reads := isLocal_number _ _ _ rest stops read
  rw [List.cons_append] at reads ⊢
  rw [value_cons_of_starts depth _ starts, reads]
  rfl

/-- A string is read back. -/
theorem value_string (depth : Nat) (text : String) (rest : List Char) :
    value depth (stringChars text ++ rest) = .ok (.string text, rest) := by
  have body : stringChars text ++ rest = '"' :: (text.toList.flatMap escape ++ '"' :: rest) := by
    simp [stringChars]
  rw [body]
  unfold value
  change scalar _ = _
  simp only [scalar, stringRest_chars]
  rfl

/-- The text of a value starts with no blank and with no closing bracket. -/
theorem exists_chars_cons {json : Json} (writable : json.IsWritable) :
    ∃ first tail, json.chars = first :: tail ∧ isSpace first = false ∧ first ≠ ']' := by
  have numeral {chars : List Char} {found : Json.Number}
      (read : number chars = .ok (found, [])) :
      ∃ first tail, chars = first :: tail ∧ isSpace first = false ∧ first ≠ ']' := by
    obtain ⟨first, tail, written, starts⟩ := exists_cons_of_number read
    exact ⟨first, tail, written, isSpace_of_starts starts, starts.ne ']' (by decide)⟩
  cases writable with
  | null => exact ⟨'n', _, rfl, rfl, by decide⟩
  | bool value => cases value <;> exact ⟨_, _, rfl, rfl, by decide⟩
  | integer value low high => exact numeral (number_integer value low high)
  | real value read => exact numeral read
  | string text => exact ⟨'"', _, rfl, rfl, by decide⟩
  | array items each => exact ⟨'[', _, rfl, rfl, by decide⟩
  | object members ordered each => exact ⟨'\x7b', _, rfl, rfl, by decide⟩

section Items

variable (depth : Nat) {values : List Json} {chars rest : List Char}

theorem nextItem_first {first : Char} (tail : List Char) (nonblank : isSpace first = false)
    (opening : first ≠ ']') : nextItem true (first :: tail) = .ok (true, first :: tail) := by
  unfold nextItem
  rw [skipSpace_cons nonblank]
  split <;> simp_all

theorem nextItem_comma {first : Char} (tail : List Char) (nonblank : isSpace first = false)
    (opening : first ≠ ']') :
    nextItem false (',' :: first :: tail) = .ok (true, first :: tail) := by
  have comma : skipSpace (',' :: first :: tail) = ',' :: first :: tail := skipSpace_cons rfl _
  simp [nextItem, comma, skipSpace_cons nonblank, opening]

/-- One item is read before the others. -/
theorem items_cons (fuel : Nat) (first : Bool) {item : Json} {next middle : List Char}
    (more : nextItem first chars = .ok (true, next))
    (head : value depth next = limited depth item.nesting (item, middle))
    (tail : items (value depth) fuel false middle =
      limited depth (nestingItems values) (values, rest)) :
    items (value depth) (fuel + 1) first chars =
      limited depth (nestingItems (item :: values)) (item :: values, rest) := by
  simp only [items, more, nestingItems]
  change (value depth next >>= fun found => items (value depth) fuel false found.2 >>= fun others =>
    pure (found.1 :: others.1, others.2)) = _
  rw [head]
  apply limited_bind
  rw [tail]
  exact limited_map depth (nestingItems values) (values, rest)
    fun others => (item :: others.1, others.2)

end Items

theorem stops_restItemChars (values : List Json) (rest : List Char) :
    Stops (restItemChars values ++ rest) := by
  cases values <;> exact stops_cons rfl (by decide)

/-- The later items of an array are read back when each of them is. -/
theorem items_restItemChars (depth : Nat) (values : List Json) (fuel : Nat) (rest : List Char)
    (each : ∀ item ∈ values, item.IsWritable ∧ ReadsBack depth item)
    (enough : values.length < fuel) :
    items (value depth) fuel false (restItemChars values ++ rest) =
      limited depth (nestingItems values) (values, rest) := by
  induction values generalizing fuel with
  | nil =>
    cases fuel with
    | zero => cases enough
    | succ fuel =>
      rw [nestingItems, limited_of_le (Nat.zero_le _)]
      rfl
  | cons item values inductionHypothesis =>
    cases fuel with
    | zero => cases enough
    | succ fuel =>
      obtain ⟨writable, reads⟩ := each item List.mem_cons_self
      obtain ⟨first, tail, written, nonblank, opening⟩ := exists_chars_cons writable
      have head := reads _ (stops_restItemChars values rest)
      have others := inductionHypothesis fuel
        (fun item inside => each item (List.mem_cons_of_mem _ inside)) (by simpa using enough)
      refine items_cons depth fuel false ?_ head others
      rw [restItemChars, written]
      simp only [List.cons_append, List.append_assoc]
      exact nextItem_comma _ nonblank opening

theorem length_lt_length_restItemChars (values : List Json) :
    values.length < (restItemChars values).length := by
  induction values with
  | nil => decide
  | cons item values inductionHypothesis =>
    rw [restItemChars, List.length_append, List.length_cons, List.length_cons]
    omega

/-- The items of an array are read back when each of them is. -/
theorem items_itemChars (depth : Nat) (values : List Json) (rest : List Char)
    (each : ∀ item ∈ values, item.IsWritable ∧ ReadsBack depth item) :
    items (value depth) ((itemChars values ++ rest).length + 1) true (itemChars values ++ rest) =
      limited depth (nestingItems values) (values, rest) := by
  cases values with
  | nil =>
    rw [nestingItems, limited_of_le (Nat.zero_le _)]
    rfl
  | cons item values =>
    obtain ⟨writable, reads⟩ := each item List.mem_cons_self
    obtain ⟨first, tail, written, nonblank, opening⟩ := exists_chars_cons writable
    have head := reads _ (stops_restItemChars values rest)
    have enough : values.length < (itemChars (item :: values) ++ rest).length := by
      have shorter := length_lt_length_restItemChars values
      rw [itemChars, List.length_append, List.length_append]
      omega
    have others := items_restItemChars depth values _ rest
      (fun item inside => each item (List.mem_cons_of_mem _ inside)) enough
    refine items_cons depth _ true ?_ head others
    rw [itemChars, written]
    simp only [List.cons_append, List.append_assoc]
    exact nextItem_first _ nonblank opening

/-- The text of a key after its opening quote, up to its colon. -/
def keyChars (key : String) : List Char :=
  key.toList.flatMap escape ++ ['"', ':']

theorem memberChars_cons (key : String) (item : Json) (others : List (String × Json)) :
    memberChars ((key, item) :: others) =
      '"' :: (keyChars key ++ (item.chars ++ restMemberChars others)) := by
  simp [memberChars, stringChars, keyChars]

theorem restMemberChars_cons (key : String) (item : Json) (others : List (String × Json)) :
    restMemberChars ((key, item) :: others) =
      ',' :: '"' :: (keyChars key ++ (item.chars ++ restMemberChars others)) := by
  simp [restMemberChars, stringChars, keyChars]

theorem stops_restMemberChars (others : List (String × Json)) (rest : List Char) :
    Stops (restMemberChars others ++ rest) := by
  cases others <;> exact stops_cons rfl (by decide)

theorem length_lt_length_restMemberChars (others : List (String × Json)) :
    others.length < (restMemberChars others).length := by
  induction others with
  | nil => decide
  | cons member others inductionHypothesis =>
    rw [restMemberChars_cons]
    simp only [List.length_append, List.length_cons]
    omega

/-- One member is read and enters the members found before it. -/
theorem members_cons (depth fuel : Nat) (first : Bool) (found all : List (String × Json))
    {key : String} {item : Json} {others : List (String × Json)} {chars middle rest : List Char}
    (more : nextKey first chars = .ok (true, keyChars key ++ (item.chars ++ middle)))
    (head : value depth (item.chars ++ middle) = limited depth item.nesting (item, middle))
    (tail : members (value depth) fuel false (Entries.insert key item found) middle =
      limited depth (nestingMembers others) (all, rest)) :
    members (value depth) (fuel + 1) first found chars =
      limited depth (nestingMembers ((key, item) :: others)) (all, rest) := by
  have keyed : stringRest (keyChars key ++ (item.chars ++ middle)) =
      .ok (key, ':' :: (item.chars ++ middle)) := by
    rw [keyChars, List.append_assoc]
    exact stringRest_chars key _
  simp only [members, more, nestingMembers]
  change (stringRest (keyChars key ++ (item.chars ++ middle)) >>= fun name =>
    colon name.2 >>= fun text => value depth text >>= fun read =>
      members (value depth) fuel false (Entries.insert name.1 read.1 found) read.2) = _
  rw [keyed]
  change (value depth (item.chars ++ middle) >>= fun read =>
    members (value depth) fuel false (Entries.insert key read.1 found) read.2) = _
  rw [head]
  exact limited_bind tail

/-- The later members of an object are read back when each of them is. -/
theorem members_restMemberChars (depth : Nat) (found others : List (String × Json)) (fuel : Nat)
    (rest : List Char) (ordered : Entries.Ordered (found ++ others))
    (each : ∀ member ∈ others, ReadsBack depth member.2) (enough : others.length < fuel) :
    members (value depth) fuel false found (restMemberChars others ++ rest) =
      limited depth (nestingMembers others) (found ++ others, rest) := by
  induction others generalizing fuel found with
  | nil =>
    cases fuel with
    | zero => cases enough
    | succ fuel =>
      rw [nestingMembers, limited_of_le (Nat.zero_le _), List.append_nil]
      rfl
  | cons member others inductionHypothesis =>
    obtain ⟨key, item⟩ := member
    cases fuel with
    | zero => cases enough
    | succ fuel =>
      have entered : Entries.insert key item found = found ++ [(key, item)] :=
        Entries.insert_eq_append key item found fun entry inside =>
          ((Entries.ordered_append found _).mp ordered).2.2 entry inside _ List.mem_cons_self
      have head := each (key, item) List.mem_cons_self _ (stops_restMemberChars others rest)
      have later := inductionHypothesis (found ++ [(key, item)]) fuel
        (by rwa [List.append_assoc])
        (fun member inside => each member (List.mem_cons_of_mem _ inside)) (by simpa using enough)
      rw [List.append_assoc] at later
      refine members_cons depth fuel false found _ ?_ head (entered ▸ later)
      rw [restMemberChars_cons]
      simp only [List.cons_append, List.append_assoc]
      rfl

/-- The members of an object are read back when each of them is. -/
theorem members_memberChars (depth : Nat) (all : List (String × Json)) (rest : List Char)
    (ordered : Entries.Ordered all) (each : ∀ member ∈ all, ReadsBack depth member.2) :
    members (value depth) ((memberChars all ++ rest).length + 1) true [] (memberChars all ++ rest) =
      limited depth (nestingMembers all) (all, rest) := by
  cases all with
  | nil =>
    rw [nestingMembers, limited_of_le (Nat.zero_le _)]
    rfl
  | cons member others =>
    obtain ⟨key, item⟩ := member
    have head := each (key, item) List.mem_cons_self _ (stops_restMemberChars others rest)
    have enough : others.length < (memberChars ((key, item) :: others) ++ rest).length := by
      have shorter := length_lt_length_restMemberChars others
      rw [memberChars_cons]
      simp only [List.length_append, List.length_cons]
      omega
    have later := members_restMemberChars depth [(key, item)] others _ rest ordered
      (fun member inside => each member (List.mem_cons_of_mem _ inside)) enough
    refine members_cons depth _ true [] _ ?_ head later
    rw [memberChars_cons]
    simp only [List.cons_append, List.append_assoc]
    rfl

/-- The text of a value is read back in front of any text into which no number goes on, unless the
value is nested too deeply. -/
theorem readsBack {json : Json} (writable : json.IsWritable) (depth : Nat) :
    ReadsBack depth json := by
  induction writable generalizing depth with
  | null =>
    intro rest _
    rw [nesting, limited_of_le (Nat.zero_le depth)]
    unfold value
    rfl
  | bool value =>
    intro rest _
    rw [nesting, limited_of_le (Nat.zero_le depth)]
    cases value <;> unfold Reader.value <;> rfl
  | integer value low high =>
    intro rest stops
    rw [chars, nesting, limited_of_le (Nat.zero_le depth)]
    exact value_number depth (number_integer value low high) stops
  | real value read =>
    intro rest stops
    rw [chars, nesting, limited_of_le (Nat.zero_le depth)]
    exact value_number depth read stops
  | string text =>
    intro rest _
    rw [chars, nesting, limited_of_le (Nat.zero_le depth)]
    exact value_string depth text rest
  | array values each inductionHypothesis =>
    intro rest _
    rw [chars, nesting, List.cons_append]
    cases depth with
    | zero => rfl
    | succ inner =>
      have found := items_itemChars inner values rest fun item inside =>
        ⟨each item inside, inductionHypothesis item inside inner⟩
      unfold value
      change (items (value inner) ((itemChars values ++ rest).length + 1) true
        (itemChars values ++ rest) >>= fun found => pure (Json.array found.1, found.2)) = _
      rw [found, limited_succ]
      exact limited_map inner (nestingItems values) (values, rest)
        fun found => (Json.array found.1, found.2)
  | object all ordered each inductionHypothesis =>
    intro rest _
    rw [chars, nesting, List.cons_append]
    cases depth with
    | zero => rfl
    | succ inner =>
      have found := members_memberChars inner all rest ordered fun member inside =>
        inductionHypothesis member inside inner
      unfold value
      change (members (value inner) ((memberChars all ++ rest).length + 1) true []
        (memberChars all ++ rest) >>= fun found => pure (Json.object found.1, found.2)) = _
      rw [found, limited_succ]
      exact limited_map inner (nestingMembers all) (all, rest)
        fun found => (Json.object found.1, found.2)

end Reader

/-- A value is read back from its text, unless it is nested too deeply. -/
theorem read_render {json : Json} (writable : json.IsWritable) :
    read json.render = Reader.limited Reader.maximumDepth json.nesting json := by
  have found := Reader.readsBack writable Reader.maximumDepth [] Reader.stops_nil
  rw [List.append_nil] at found
  simp only [read, render, String.toList_ofList, found, Reader.limited]
  split_ifs <;> rfl

end Json

end Reduct
