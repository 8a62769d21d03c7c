import Reduct.Proofs.Decimal
import Reduct.Proofs.StoredPaths
/-! This file decides which positions beyond its end a stored list refuses. A segment of digits
names a position only while its number fits sixty-four bits, and a larger one is the key of a map
that replaces the list. -/

namespace Reduct

namespace Text

theorem cut_of_notMem {mark : Char} {chars : List Char} (absent : mark ∉ chars) :
    cut mark chars = [chars] := by
  induction chars with
  | nil => rfl
  | cons char rest inductionHypothesis =>
      rw [List.mem_cons, not_or] at absent
      rw [cut, if_neg (Ne.symm absent.1), inductionHypothesis absent.2]

/-- Texts that are joined by a mark are cut apart there. -/
theorem cut_append (mark : Char) (first second : List Char) :
    cut mark (first ++ mark :: second) = cut mark first ++ cut mark second := by
  induction first with
  | nil => simp [cut]
  | cons char rest inductionHypothesis =>
      rw [List.cons_append, cut, cut, inductionHypothesis]
      by_cases found : char = mark
      · rw [if_pos found, if_pos found, List.cons_append]
      · rw [if_neg found, if_neg found]
        cases pieces : cut mark rest with
        | nil => exact absurd pieces (cut_ne_nil mark rest)
        | cons piece others => rfl

end Text

namespace Storage

/-- A path grows by one segment behind a dot. -/
theorem segments_append (path : String) {segment : String} (undotted : '.' ∉ segment.toList) :
    segments (path ++ "." ++ segment) = segments path ++ [segment] := by
  have chars : (path ++ "." ++ segment).toList = path.toList ++ '.' :: segment.toList := by simp
  rw [segments, chars, Text.cut_append, Text.cut_of_notMem undotted, List.map_append,
    List.map_singleton, String.ofList_toList, segments]

/-- The number that a text of decimal digits stands for. -/
def numberOf (segment : String) : Nat :=
  Nat.ofDigitChars 10 segment.toList 0

/-- Digits name a position when their number fits sixty-four bits. -/
theorem index?_of_digits {segment : String} (present : segment.toList ≠ [])
    (digits : ∀ char ∈ segment.toList, char.isDigit = true) :
    index? segment = if numberOf segment < 2 ^ 64 then some (numberOf segment) else none := by
  have value : Text.digits? 10 segment.toList = some (numberOf segment) :=
    Text.foldl_digit?_ten segment.toList
      (fun char inside => Text.isAsciiDigit_of_isDigit (digits char inside)) 0
  cases chars : segment.toList with
  | nil => exact absurd chars present
  | cons char rest =>
      have unsigned : char ≠ '+' := by
        rintro rfl
        exact absurd (digits '+' (chars ▸ List.mem_cons_self)) (by decide)
      rw [chars] at value
      simp [index?, chars, unsigned, value, Option.filter_some]

/-- A write fails exactly if it fails from a node on that is reached on its way. -/
theorem overruns_append_iff {node child : Node} {first second : List String} {error : Error}
    (reached : reach? node first = some child) :
    Overruns node (first ++ second) error ↔ Overruns child second error := by
  induction first generalizing node with
  | nil =>
      cases reached
      rfl
  | cons segment first inductionHypothesis =>
      obtain ⟨next, found, later⟩ := Option.bind_eq_some_iff.mp reached
      rw [List.cons_append, overruns_cons_iff, ← inductionHypothesis later]
      constructor
      · rintro (⟨items, index, place, outside, -⟩ | ⟨other, also, overruns⟩)
        · rw [under?_of_place? place, List.getElem?_eq_none_iff.mpr outside.le] at found
          cases found
        · rw [found] at also
          cases also
          exact overruns
      · exact fun overruns => .inr ⟨next, found, overruns⟩

section

variable {storage : Storage} {path segment : String} {items : List Node}
  (held : reach? storage.toNode (segments path) = some (.list items))
  (undotted : '.' ∉ segment.toList)

include held undotted

/-- A list refuses a position beyond its end. -/
theorem set_of_beyond {index : Nat} (position : index? segment = some index)
    (beyond : items.length < index) (value : Node) :
    storage.set (path ++ "." ++ segment) value =
      .error (.typeError s!"list index at most {items.length}" segment) := by
  rw [set_eq_error_iff, segments_append path undotted, overruns_append_iff held]
  exact .beyond position beyond

/-- A segment that names no position makes a list give way to a map. -/
theorem get?_of_index?_eq_none (textual : index? segment = none) (value : Node) :
    ∃ after, storage.set (path ++ "." ++ segment) value = .ok after ∧
      after.get? path = some (.map [(segment, value)]) := by
  cases result : storage.set (path ++ "." ++ segment) value with
  | error error =>
      rw [set_eq_error_iff, segments_append path undotted, overruns_append_iff held] at result
      cases result with
      | beyond position outside =>
          rw [textual] at position
          cases position
      | inside found later =>
          rw [under?, textual] at found
          cases found
  | ok after =>
      have assigned := assign_of_set result
      rw [segments_append path undotted] at assigned
      obtain ⟨final, made, found⟩ := descend?_of_assign_append assigned
      rw [held, Option.getD_some, assign, textual] at made
      cases made
      exact ⟨after, rfl, by rw [get?_eq_descend?, found]⟩

end

/-- A list refuses a number beyond its end that fits sixty-four bits, and then nothing changes. A
number that does not fit is accepted, and the list is lost to a map. -/
theorem beyond_end_refused {storage : Storage} {path segment : String} {items : List Node}
    (held : reach? storage.toNode (segments path) = some (.list items))
    (digits : ∀ char ∈ segment.toList, char.isDigit = true)
    (beyond : items.length < numberOf segment) (value : Node) :
    (numberOf segment < 2 ^ 64 →
      storage.set (path ++ "." ++ segment) value =
        .error (.typeError s!"list index at most {items.length}" segment) ∧
      storage.write (path ++ "." ++ segment) value =
        (.error (.typeError s!"list index at most {items.length}" segment), storage)) ∧
    (2 ^ 64 ≤ numberOf segment →
      ∃ after, storage.set (path ++ "." ++ segment) value = .ok after ∧
        after.get? path = some (.map [(segment, value)])) := by
  have undotted : '.' ∉ segment.toList := by
    intro inside
    exact absurd (digits '.' inside) (by decide)
  have present : segment.toList ≠ [] := by
    intro empty
    rw [numberOf, empty] at beyond
    exact absurd beyond (Nat.not_lt_zero _)
  have position := index?_of_digits present digits
  constructor
  · intro fits
    rw [if_pos fits] at position
    have refused := set_of_beyond held undotted position beyond value
    exact ⟨refused, write_of_set_error refused⟩
  · intro large
    rw [if_neg (Nat.not_lt.mpr large)] at position
    exact get?_of_index?_eq_none held undotted position value

/-- A store with a list of one item inside of a list. -/
def rack : Storage :=
  ⟨[("a", .list [.null, .list [.bool true]])]⟩

/-- The rack refuses the largest number of sixty-four bits, also with a zero in front of it. -/
theorem rack_refuses :
    reach? rack.toNode (segments "a.1") = some (.list [.bool true]) ∧
    1 < numberOf "018446744073709551615" ∧
    rack.write "a.1.018446744073709551615" .null =
      (.error (.typeError "list index at most 1" "018446744073709551615"), rack) := by
  have held : reach? rack.toNode (segments "a.1") = some (.list [.bool true]) := rfl
  have value : numberOf "018446744073709551615" = 2 ^ 64 - 1 := by decide
  have beyond : [Node.bool true].length < numberOf "018446744073709551615" := by
    rw [value]
    decide
  have refused := (beyond_end_refused held (by simp) beyond .null).1 (by rw [value]; decide)
  exact ⟨held, beyond, refused.2⟩

/-- The next number takes the place of the list. -/
theorem rack_gives_way :
    reach? rack.toNode (segments "a.1") = some (.list [.bool true]) ∧
    1 < numberOf "18446744073709551616" ∧
    rack.set "a.1.18446744073709551616" .null =
      .ok ⟨[("a", .list [.null, .map [("18446744073709551616", .null)]])]⟩ := by
  exact ⟨rfl, by decide, rfl⟩

end Storage

end Reduct
