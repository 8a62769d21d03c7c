import Reduct.Proofs.FailedWrite
/-! This file follows paths through the store after a write. What was written is read back, and a
path that parts from the written one outside of quotes keeps its node. -/

namespace Reduct

theorem Text.cut_ne_nil (mark : Char) (chars : List Char) : cut mark chars ≠ [] := by
  cases chars with
  | nil => simp [cut]
  | cons char rest =>
      rw [cut]
      split_ifs with found
      · simp
      · cases cut mark rest <;> simp

namespace Storage

theorem segments_ne_nil (path : String) : segments path ≠ [] := by
  rw [segments, Ne, List.map_eq_nil_iff]
  exact Text.cut_ne_nil '.' path.toList

/-- A read walks through the map of everything stored. -/
theorem get?_eq_descend? (storage : Storage) (path : String) :
    storage.get? path = descend? storage.toNode (segments path) := by
  cases split : segments path with
  | nil => exact absurd split (segments_ne_nil path)
  | cons root rest =>
      rw [get?, split]
      rfl

/-- A write is made in the map of everything stored. -/
theorem assign_of_set {storage after : Storage} {path : String} {value : Node}
    (written : storage.set path value = .ok after) :
    assign value (segments path) storage.toNode = .ok after.toNode := by
  cases split : segments path with
  | nil => exact absurd split (segments_ne_nil path)
  | cons root rest =>
      rw [storage.set_of_segments split, map_eq_ok_iff] at written
      obtain ⟨node, inner, rfl⟩ := written
      rw [toNode, assign, inner]
      rfl

/-- A node takes an item under a segment. A list takes it at a position that is not beyond its end,
and whatever else is in the way becomes a map that takes it as an entry. -/
inductive Takes : Node → String → Node → Node → Prop
  | position {items : List Node} {segment : String} {index : Nat} (item : Node)
      (position : index? segment = some index) (inside : index ≤ items.length) :
      Takes (.list items) segment item
        (.list ((if index = items.length then items ++ [.null] else items).set index item))
  | entry {node : Node} {segment : String} (item : Node) (entry : place? node segment = none) :
      Takes node segment item (.map (Entries.insert segment item (entriesOf node)))

/-- A write first changes what the next segment leads to and then puts it back in its place. -/
theorem takes_of_assign {value node after : Node} {segment : String} {rest : List String}
    (written : assign value (segment :: rest) node = .ok after) :
    ∃ item, assign value rest ((under? node segment).getD .null) = .ok item ∧
      Takes node segment item after := by
  cases place : place? node segment with
  | some pair =>
      obtain ⟨items, index⟩ := pair
      rw [assign_of_place? value place] at written
      by_cases outside : items.length < index
      · rw [if_pos outside] at written
        cases written
      · rw [if_neg outside, map_eq_ok_iff] at written
        obtain ⟨item, inner, rfl⟩ := written
        rw [under?_of_place? place]
        obtain ⟨rfl, position⟩ := place?_eq_some_iff.mp place
        exact ⟨item, inner, .position item position (by omega)⟩
  | none =>
      rw [assign_of_entriesOf value place, map_eq_ok_iff] at written
      obtain ⟨item, inner, rfl⟩ := written
      rw [under?_of_entriesOf place]
      exact ⟨item, inner, .entry item place⟩

/-- In a list that has taken an item every other position is as it was. -/
theorem getElem?_set_grown {items : List Node} {index : Nat} (inside : index ≤ items.length)
    (item : Node) (other : Nat) :
    ((if index = items.length then items ++ [.null] else items).set index item)[other]? =
      if other = index then some item else items[other]? := by
  split_ifs with last same same
  · simp [last, same]
  · rw [List.getElem?_set_ne (Ne.symm same)]
    rcases lt_trichotomy other items.length with before | equal | after
    · exact List.getElem?_append_left before
    · exact absurd (equal.trans last.symm) same
    · rw [List.getElem?_eq_none_iff.mpr (by simp; omega), List.getElem?_eq_none_iff.mpr (by omega)]
  · rw [same, List.getElem?_set_self (by omega)]
  · exact List.getElem?_set_ne (Ne.symm same)

/-- The item is found under its segment. -/
theorem child?_of_takes {node item after : Node} {segment : String}
    (taken : Takes node segment item after) : child? after segment = some item := by
  cases taken with
  | position item position inside =>
      rw [child?, position, Option.bind_some, getElem?_set_grown inside, if_pos rfl]
  | entry item entry => rw [child?, Entries.get?_insert, if_pos rfl]

/-- The node under several segments of maps and lists; nothing is found inside of quotes. -/
def reach? : Node → List String → Option Node
  | node, [] => some node
  | node, segment :: rest => (under? node segment).bind (reach? · rest)

/-- What is found outside of quotes is found by looking through them. -/
theorem child?_of_under? {node child : Node} {segment : String}
    (found : under? node segment = some child) : child? node segment = some child := by
  cases node with
  | map entries => exact found
  | list items => exact found
  | _ => cases found

/-- Nothing is reached from the null that stands for a missing node, other than that null. -/
theorem getD_reach?_getD (found : Option Node) (rest : List String) :
    (reach? (found.getD .null) rest).getD .null = (found.bind (reach? · rest)).getD .null := by
  cases found with
  | some child => rfl
  | none => cases rest <;> rfl

/-- After a write every node on its way is what the rest of the write makes of the node that was
there. -/
theorem descend?_of_assign_append {value node after : Node} {first second : List String}
    (written : assign value (first ++ second) node = .ok after) :
    ∃ final, assign value second ((reach? node first).getD .null) = .ok final ∧
      descend? after first = some final := by
  -- A missing node counts as null, so the walk may go on where nothing is reached.
  induction first generalizing node after with
  | nil => exact ⟨after, written, rfl⟩
  | cons segment first inductionHypothesis =>
      obtain ⟨item, inner, taken⟩ := takes_of_assign written
      obtain ⟨final, made, found⟩ := inductionHypothesis inner
      rw [getD_reach?_getD] at made
      rw [descend?, child?_of_takes taken, Option.bind_some]
      exact ⟨final, made, found⟩

/-- Two segments lead to different places of a node that a write under the first one keeps: to
different entries of a map, or to different positions of a list. -/
def Apart : Node → String → String → Prop
  | .map _, first, second => first ≠ second
  | .list _, first, second => (index? first).isSome ∧ index? first ≠ index? second
  | _, _, _ => False

/-- Two walks that start together part at a map or at a list outside of quotes. -/
inductive Parts : Node → List String → List String → Prop
  | here {node : Node} {first second : String} {left right : List String}
      (apart : Apart node first second) : Parts node (first :: left) (second :: right)
  | inside {node child : Node} {first second : String} {left right : List String}
      (same : ¬Apart node first second) (found : under? node first = some child)
      (later : Parts child left right) : Parts node (first :: left) (second :: right)

/-- A node that takes an item keeps what stands at the other places. -/
theorem child?_of_apart {node item after : Node} {first second : String}
    (apart : Apart node first second) (taken : Takes node first item after) :
    child? after second = child? node second := by
  cases taken with
  | position item position inside =>
      have different := apart.2
      rw [position] at different
      rw [child?, child?]
      cases other : index? second with
      | none => rfl
      | some index =>
          rw [other] at different
          rw [Option.bind_some, Option.bind_some, getElem?_set_grown inside,
            if_neg fun equal => different (congrArg some equal.symm)]
  | entry item entry =>
      cases node with
      | map entries => rw [child?, Entries.get?_insert, if_neg (Ne.symm apart), entriesOf, child?]
      | list items =>
          rw [place?, Option.map_eq_none_iff] at entry
          simp [Apart, entry] at apart
      | _ => cases apart

/-- In a list two segments that are not apart name the same position. -/
theorem index?_of_not_apart {items : List Node} {first second : String} {index : Nat}
    (same : ¬Apart (.list items) first second) (position : index? first = some index) :
    index? second = some index := by
  by_contra different
  refine same ⟨by simp [position], fun equal => ?_⟩
  exact different (equal ▸ position)

/-- Segments that are not apart find the same child. -/
theorem under?_of_not_apart {node child : Node} {first second : String}
    (same : ¬Apart node first second) (found : under? node first = some child) :
    under? node second = some child := by
  cases node with
  | map entries => rwa [← not_ne_iff.mp same]
  | list items =>
      obtain ⟨index, position, -⟩ := Option.bind_eq_some_iff.mp found
      rwa [under?, index?_of_not_apart same position, ← position]
  | _ => cases found

/-- Segments that are not apart find the item that was taken under one of them. -/
theorem child?_of_not_apart {node child item after : Node} {first second : String}
    (same : ¬Apart node first second) (found : under? node first = some child)
    (taken : Takes node first item after) : child? after second = some item := by
  cases taken with
  | position item position inside =>
      rw [child?, index?_of_not_apart same position, Option.bind_some, getElem?_set_grown inside,
        if_pos rfl]
  | entry item entry =>
      cases node with
      | map entries =>
          rw [← not_ne_iff.mp same]
          exact child?_of_takes (.entry item entry)
      | list items =>
          rw [under?_of_entriesOf entry] at found
          cases found
      | _ => cases found

/-- A walk that parts from a write finds what it found before. -/
theorem descend?_of_parts {value node after : Node} {left right : List String}
    (parts : Parts node left right) (written : assign value left node = .ok after) :
    descend? after right = descend? node right := by
  induction parts generalizing after with
  | here apart =>
      obtain ⟨item, -, taken⟩ := takes_of_assign written
      rw [descend?, descend?, child?_of_apart apart taken]
  | inside same found later inductionHypothesis =>
      obtain ⟨item, inner, taken⟩ := takes_of_assign written
      rw [found] at inner
      rw [descend?, descend?, child?_of_not_apart same found taken,
        child?_of_under? (under?_of_not_apart same found)]
      exact inductionHypothesis inner

/-- What has been written is read back, and the nodes under other first segments stay. -/
theorem read_after_write {storage after : Storage} {path : String} {value : Node}
    (written : storage.set path value = .ok after) :
    after.get? path = some value ∧ after.has path = true ∧
      ∀ other, (segments other).head? ≠ (segments path).head? →
        after.get? other = storage.get? other := by
  have assigned := assign_of_set written
  have found : after.get? path = some value := by
    rw [← List.append_nil (segments path)] at assigned
    obtain ⟨final, made, found⟩ := descend?_of_assign_append assigned
    cases made
    rw [get?_eq_descend?, found]
  refine ⟨found, by rw [has, found]; rfl, fun other different => ?_⟩
  rw [get?_eq_descend?, get?_eq_descend?]
  -- Different first segments part at the map of everything stored.
  refine descend?_of_parts ?_ assigned
  cases here : segments path with
  | nil => exact absurd here (segments_ne_nil path)
  | cons first left =>
      cases there : segments other with
      | nil => exact absurd there (segments_ne_nil other)
      | cons second right =>
          rw [here, there] at different
          exact .here fun equal => different (congrArg some equal.symm)

/-- A store with a list of a quoted map and of a map whose keys are numbers. -/
def drawer : Storage :=
  ⟨[("a", .list [.quote (.map [("x", .null), ("y", .bool true)]),
      .map [("0", .null), ("00", .bool true)]]), ("b", .string "c")]⟩

/-- The drawer takes a map at the end of its list and another one in place of a text. -/
theorem drawer_read_after_write :
    (∃ after, drawer.set "a.02.k" (.bool false) = .ok after ∧
      after.get? "a.02.k" = some (.bool false) ∧ after.has "a.02.k" = true ∧
      after.get? "b" = some (.string "c")) ∧
    ∃ after, drawer.set "b.7" .null = .ok after ∧ after.get? "b.7" = some .null ∧
      after.get? "a.1.00" = some (.bool true) := by
  constructor
  · obtain ⟨after, written⟩ : ∃ after, drawer.set "a.02.k" (.bool false) = .ok after := ⟨_, rfl⟩
    obtain ⟨found, present, others⟩ := read_after_write written
    exact ⟨after, written, found, present, others "b" (by decide)⟩
  · obtain ⟨after, written⟩ : ∃ after, drawer.set "b.7" .null = .ok after := ⟨_, rfl⟩
    obtain ⟨found, -, others⟩ := read_after_write written
    exact ⟨after, written, found, others "a.1.00" (by decide)⟩

/-- Two segments differ when they are different texts and no position is named by both. -/
def Differ (first second : String) : Prop :=
  first ≠ second ∧ ∀ index, index? first = some index → index? second ≠ some index

/-- Two paths diverge when they differ at one of their segments. -/
def Diverge (left right : List String) : Prop :=
  ∃ (place : Nat) (first second : String),
    left[place]? = some first ∧ right[place]? = some second ∧ Differ first second

/-- Paths that diverge differ at their first segments or diverge after them. -/
theorem Diverge.cases {left right : List String} (diverge : Diverge left right) :
    ∃ first second lefts rights, left = first :: lefts ∧ right = second :: rights ∧
      (Differ first second ∨ Diverge lefts rights) := by
  obtain ⟨place, one, other, here, there, differ⟩ := diverge
  cases left with
  | nil => cases here
  | cons first lefts =>
      cases right with
      | nil => cases there
      | cons second rights =>
          refine ⟨first, second, lefts, rights, rfl, rfl, ?_⟩
          cases place with
          | zero =>
              cases here
              cases there
              exact .inl differ
          | succ place => exact .inr ⟨place, one, other, here, there, differ⟩

/-- Segments that find the same child do not differ. -/
theorem not_differ_of_under? {node child : Node} {first second : String}
    (same : ¬Apart node first second) (found : under? node first = some child) :
    ¬Differ first second := by
  rintro ⟨texts, positions⟩
  cases node with
  | map entries => exact same texts
  | list items =>
      obtain ⟨index, position, -⟩ := Option.bind_eq_some_iff.mp found
      exact positions index position (index?_of_not_apart same position)
  | _ => cases found

/-- Paths that diverge part on the way to a node that is reached outside of quotes. -/
theorem parts_of_reach? {node final : Node} {left right : List String}
    (reached : reach? node left = some final) (diverge : Diverge left right) :
    Parts node left right := by
  induction left generalizing node right with
  | nil =>
      obtain ⟨first, second, lefts, rights, absurd, -⟩ := diverge.cases
      cases absurd
  | cons segment left inductionHypothesis =>
      obtain ⟨first, second, lefts, rights, equal, rfl, differ⟩ := diverge.cases
      cases equal
      obtain ⟨child, found, later⟩ := Option.bind_eq_some_iff.mp reached
      by_cases apart : Apart node segment second
      · exact .here apart
      · have deeper := differ.resolve_left (not_differ_of_under? apart found)
        exact .inside apart found (inductionHypothesis later deeper)

/-- What a segment that is not apart finds is the item that was taken. -/
theorem eq_of_child?_of_takes {node item after child : Node} {first second : String}
    (same : ¬Apart node first second) (taken : Takes node first item after)
    (found : child? after second = some child) : child = item ∧ ¬Differ first second := by
  cases taken with
  | position item position inside =>
      have also := index?_of_not_apart same position
      rw [child?, also, Option.bind_some, getElem?_set_grown inside, if_pos rfl] at found
      cases found
      exact ⟨rfl, fun differ => differ.2 _ position also⟩
  | entry item entry =>
      rw [child?, Entries.get?_insert] at found
      split_ifs at found with equal
      · cases found
        exact ⟨rfl, fun differ => differ.1 equal.symm⟩
      · cases node with
        | map entries => exact absurd (Ne.symm equal) same
        | _ => cases found

/-- No walks part at the null that stands for a missing node. -/
theorem not_parts_null (left right : List String) : ¬Parts .null left right := by
  intro parts
  cases parts with
  | here apart => exact apart
  | inside same found later => cases found

/-- A walk that diverges from a write and does not part from it finds nothing. -/
theorem descend?_of_not_parts {value node after : Node} {left right : List String}
    (together : ¬Parts node left right) (diverge : Diverge left right)
    (written : assign value left node = .ok after) : descend? after right = none := by
  induction left generalizing node after right with
  | nil =>
      obtain ⟨first, second, lefts, rights, absurd, -⟩ := diverge.cases
      cases absurd
  | cons segment left inductionHypothesis =>
      obtain ⟨first, second, lefts, rights, equal, rfl, differ⟩ := diverge.cases
      cases equal
      obtain ⟨item, inner, taken⟩ := takes_of_assign written
      have same : ¬Apart node segment second := fun apart => together (.here apart)
      rw [descend?]
      cases found : child? after second with
      | none => rfl
      | some child =>
          obtain ⟨rfl, alike⟩ := eq_of_child?_of_takes same taken found
          refine inductionHypothesis (fun parts => ?_) (differ.resolve_left alike) inner
          -- A missing node becomes null, and only a node that is there can be walked through.
          cases there : under? node segment with
          | none =>
              rw [there] at parts
              exact not_parts_null _ _ parts
          | some before =>
              rw [there] at parts
              exact together (.inside same there parts)

/-- A write that would fail has nothing to overwrite. -/
theorem descend?_of_overruns {node : Node} {rest : List String} {error : Error}
    (overruns : Overruns node rest error) : descend? node rest = none := by
  induction overruns with
  | beyond position outside =>
      rw [descend?, child?, position, Option.bind_some, List.getElem?_eq_none_iff.mpr outside.le]
      rfl
  | inside found later inductionHypothesis =>
      rw [descend?, child?_of_under? found]
      exact inductionHypothesis

/-- A node that is found at a path can be overwritten. When it is reached outside of quotes, every
path that diverges from its path finds what it found before. In general such a path finds it
exactly if the two paths part outside of quotes, or if there was nothing to find. -/
theorem overwrite_keeps_others {storage : Storage} {path : String} {old : Node}
    (found : storage.get? path = some old) (value : Node) :
    ∃ after, storage.set path value = .ok after ∧
      ∀ other, Diverge (segments path) (segments other) →
        (reach? storage.toNode (segments path) = some old →
          after.get? other = storage.get? other) ∧
        (after.get? other = storage.get? other ↔
          Parts storage.toNode (segments path) (segments other) ∨ storage.get? other = none) := by
  rw [get?_eq_descend?] at found
  cases result : storage.set path value with
  | error error =>
      have overruns := (storage.set_eq_error_iff path value error).mp result
      rw [descend?_of_overruns overruns] at found
      cases found
  | ok after =>
      refine ⟨after, rfl, fun other diverge => ?_⟩
      have assigned := assign_of_set result
      by_cases parts : Parts storage.toNode (segments path) (segments other)
      · have kept : after.get? other = storage.get? other := by
          rw [get?_eq_descend?, get?_eq_descend?, descend?_of_parts parts assigned]
        exact ⟨fun _ => kept, fun _ => .inl parts, fun _ => kept⟩
      · have lost : after.get? other = none := by
          rw [get?_eq_descend?, descend?_of_not_parts parts diverge assigned]
        refine ⟨fun reached => absurd (parts_of_reach? reached diverge) parts, ?_⟩
        rw [lost]
        exact ⟨fun same => .inr same.symm, fun either => (either.resolve_left parts).symm⟩

/-- In the drawer the position after the written one is read through its quote as before. -/
theorem drawer_overwrite_keeps_others :
    drawer.get? "a.1.0" = some .null ∧ Diverge (segments "a.1.0") (segments "a.00.y") ∧
      ∃ after, drawer.set "a.1.0" (.string "d") = .ok after ∧
        after.get? "a.00.y" = some (.bool true) := by
  have diverge : Diverge (segments "a.1.0") (segments "a.00.y") := by
    refine ⟨1, "1", "00", rfl, rfl, by decide, fun index position also => ?_⟩
    have first : index? "1" = some 1 := rfl
    have second : index? "00" = some 0 := rfl
    rw [first] at position
    rw [second, ← position] at also
    cases also
  have found : drawer.get? "a.1.0" = some .null := rfl
  obtain ⟨after, written, kept⟩ := overwrite_keeps_others found (.string "d")
  exact ⟨found, diverge, after, written, (kept "a.00.y" diverge).1 rfl⟩

/-- A write that goes through a quote loses the neighbours of what it writes. -/
theorem quoted_neighbour_lost :
    drawer.get? "a.0.x" = some .null ∧ Diverge (segments "a.0.x") (segments "a.0.y") ∧
      drawer.get? "a.0.y" = some (.bool true) ∧
      ∃ after, drawer.set "a.0.x" .null = .ok after ∧ after.get? "a.0.y" = none := by
  have diverge : Diverge (segments "a.0.x") (segments "a.0.y") := by
    refine ⟨2, "x", "y", rfl, rfl, by decide, fun index position => ?_⟩
    have first : index? "x" = none := rfl
    rw [first] at position
    cases position
  exact ⟨rfl, diverge, rfl, _, rfl, rfl⟩

end Storage

end Reduct
