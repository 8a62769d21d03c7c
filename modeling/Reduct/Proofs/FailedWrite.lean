import Mathlib.Data.String.Basic
import Reduct.Proofs.Bindings
import Reduct.Proofs.WireText
/-! This file shows that a failing write to the store changes nothing. A write in place changes the
containers on its way before it goes on inside them, and yet none of them is changed before a
failure. -/

namespace Reduct

namespace Entries

variable {α : Type*}

/-- A key that is missing takes a value. -/
def orInsert (key : String) (value : α) (entries : List (String × α)) : List (String × α) :=
  if (get? key entries).isSome then entries else insert key value entries

/-- The value of a key that is there is replaced where it stands. -/
def replace (key : String) (value : α) : List (String × α) → List (String × α)
  | [] => []
  | (other, old) :: rest =>
    if other = key then (other, value) :: rest else (other, old) :: replace key value rest

theorem get?_cons (key other : String) (value : α) (rest : List (String × α)) :
    get? key ((other, value) :: rest) = if other = key then some value else get? key rest := by
  by_cases same : other = key
  · simp [get?, same]
  · simp [get?, List.lookup_cons, same, beq_eq_false_iff_ne.mpr (Ne.symm same)]

/-- A value that takes its own place changes nothing. -/
theorem replace_self {key : String} {value : α} {entries : List (String × α)}
    (found : get? key entries = some value) : replace key value entries = entries := by
  induction entries with
  | nil => rfl
  | cons entry rest inductionHypothesis =>
      obtain ⟨other, old⟩ := entry
      rw [get?_cons] at found
      rw [replace]
      split_ifs at found ⊢ with same
      · cases found
        rfl
      · rw [inductionHypothesis found]

/-- A key that has just been inserted takes its value like a new one. -/
theorem replace_insert {key : String} {first second : α} {entries : List (String × α)}
    (missing : get? key entries = none) :
    replace key second (insert key first entries) = insert key second entries := by
  induction entries with
  | nil => simp [insert, replace]
  | cons entry rest inductionHypothesis =>
      obtain ⟨other, old⟩ := entry
      rw [get?_cons] at missing
      split_ifs at missing with same
      rw [insert, insert]
      split_ifs with before equal
      · simp [replace]
      · exact absurd equal.symm same
      · rw [replace, if_neg same, inductionHypothesis missing]

/-- In ascending order a key that is there is found at its place. -/
theorem replace_eq_insert {key : String} {old : α} {entries : List (String × α)}
    (ordered : Ordered entries) (found : get? key entries = some old) (value : α) :
    replace key value entries = insert key value entries := by
  induction entries with
  | nil => cases found
  | cons entry rest inductionHypothesis =>
      obtain ⟨other, present⟩ := entry
      obtain ⟨least, tail⟩ := List.pairwise_cons.mp ordered
      rw [get?_cons] at found
      rw [replace, insert]
      by_cases same : other = key
      · subst same
        simp
      · rw [if_neg same] at found
        have after : other < key :=
          least key (List.mem_map.mpr ⟨_, mem_of_get? found, rfl⟩)
        rw [if_neg same, if_neg (lt_asymm after), if_neg (Ne.symm same),
          inductionHypothesis tail found]

/-- In ascending order a key takes its value whether or not it was there. -/
theorem replace_orInsert {entries : List (String × α)} (ordered : Ordered entries) (key : String)
    (first second : α) :
    replace key second (orInsert key first entries) = insert key second entries := by
  rw [orInsert]
  cases found : get? key entries with
  | some old => exact replace_eq_insert ordered found second
  | none => exact replace_insert found

/-- A key that is there takes no other value. -/
theorem orInsert_of_get? {key : String} {old : α} {entries : List (String × α)}
    (found : get? key entries = some old) (value : α) : orInsert key value entries = entries := by
  rw [orInsert, found]
  rfl

theorem getD_get?_orInsert (key : String) (value : α) (entries : List (String × α)) :
    (get? key (orInsert key value entries)).getD value = (get? key entries).getD value := by
  rw [orInsert]
  cases found : get? key entries with
  | some old => simp [found]
  | none => simp [get?_insert]

end Entries

namespace Storage

/-- The node under one segment of a map or a list; nothing is found inside of quotes. -/
def under? : Node → String → Option Node
  | .map entries, segment => Entries.get? segment entries
  | .list items, segment => (index? segment).bind (items[·]?)
  | _, _ => none

/-- Walking along segments reaches a list that ends before the position that comes next. -/
inductive Overruns : Node → List String → Error → Prop
  | beyond {items : List Node} {segment : String} {rest : List String} {index : Nat}
      (position : index? segment = some index) (outside : items.length < index) :
      Overruns (.list items) (segment :: rest)
        (.typeError s!"list index at most {items.length}" segment)
  | inside {node child : Node} {segment : String} {rest : List String} {error : Error}
      (found : under? node segment = some child) (later : Overruns child rest error) :
      Overruns node (segment :: rest) error

/-- The list that is in the way and the position in it that a segment names. -/
def place? : Node → String → Option (List Node × Nat)
  | .list items, segment => (index? segment).map fun index => (items, index)
  | _, _ => none

/-- The entries that are in the way; whatever is no map gives way to the map without entries. -/
def entriesOf : Node → List (String × Node)
  | .map entries => entries
  | _ => []

/-- A write in place. A list grows and a map takes a new key before the rest of the path is
followed, and a failure leaves behind what has been changed by then. -/
def put (value : Node) : List String → Node → Except Error Unit × Node
  | [], _ => (.ok (), value)
  | segment :: rest, node =>
    match place? node segment with
    | some (items, index) =>
      if items.length < index then
        (.error (.typeError s!"list index at most {items.length}" segment), node)
      else
        let grown := if index = items.length then items ++ [.null] else items
        let (result, item) := put value rest (grown[index]?.getD .null)
        (result, .list (grown.set index item))
    | none =>
      let held := Entries.orInsert segment .null (entriesOf node)
      let (result, item) := put value rest ((Entries.get? segment held).getD .null)
      (result, .map (Entries.replace segment item held))

/-- A write in place to the node of the first segment, which is null when there is none yet. -/
def write (storage : Storage) (path : String) (value : Node) : Except Error Unit × Storage :=
  match segments path with
  | [] => (.ok (), storage)
  | [root] => (.ok (), ⟨Entries.insert root value storage.roots⟩)
  | root :: rest =>
    let held := Entries.orInsert root .null storage.roots
    let (result, node) := put value rest ((Entries.get? root held).getD .null)
    (result, ⟨Entries.replace root node held⟩)

/-- A segment names a place in lists alone. -/
theorem place?_eq_some_iff {node : Node} {segment : String} {items : List Node} {index : Nat} :
    place? node segment = some (items, index) ↔
      node = .list items ∧ index? segment = some index := by
  cases node with
  | list others => simp [place?, and_comm]
  | _ => simp [place?]

theorem under?_of_place? {node : Node} {segment : String} {items : List Node} {index : Nat}
    (place : place? node segment = some (items, index)) : under? node segment = items[index]? := by
  obtain ⟨rfl, position⟩ := place?_eq_some_iff.mp place
  rw [under?, position, Option.bind_some]

theorem under?_of_entriesOf {node : Node} {segment : String} (entry : place? node segment = none) :
    under? node segment = Entries.get? segment (entriesOf node) := by
  cases node with
  | list items =>
      rw [under?, Option.map_eq_none_iff.mp entry]
      rfl
  | _ => rfl

/-- Only a map has entries. -/
theorem map_entriesOf {node child : Node} {segment : String}
    (found : Entries.get? segment (entriesOf node) = some child) :
    Node.map (entriesOf node) = node := by
  cases node with
  | map entries => rfl
  | _ => cases found

/-- A position in a list is beyond its end, or it is written to in the list grown to hold it. -/
theorem assign_of_place? (value : Node) {node : Node} {segment : String} {items : List Node}
    {index : Nat} (place : place? node segment = some (items, index)) (rest : List String) :
    assign value (segment :: rest) node =
      if items.length < index then
        .error (.typeError s!"list index at most {items.length}" segment)
      else
        (assign value rest (items[index]?.getD .null)).map fun item =>
          .list ((if index = items.length then items ++ [.null] else items).set index item) := by
  obtain ⟨rfl, position⟩ := place?_eq_some_iff.mp place
  rw [assign, position]
  cases found : items[index]? with
  | some item =>
      have held := (List.getElem?_eq_some_iff.mp found).1
      rw [if_neg (by omega), if_neg (by omega)]
      simp only [found]
      rfl
  | none =>
      have missing := List.getElem?_eq_none_iff.mp found
      simp only [found]
      by_cases last : index = items.length
      · have grown (item : Node) : (items ++ [Node.null]).set index item = items ++ [item] := by
          simp [last]
        rw [if_pos last, if_neg (by omega), if_pos last]
        simp only [grown]
        rfl
      · rw [if_neg last, if_pos (by omega)]

theorem assign_of_entriesOf (value : Node) {node : Node} {segment : String}
    (entry : place? node segment = none) (rest : List String) :
    assign value (segment :: rest) node =
      (assign value rest ((Entries.get? segment (entriesOf node)).getD .null)).map fun item =>
        .map (Entries.insert segment item (entriesOf node)) := by
  cases node with
  | list items =>
      rw [assign, Option.map_eq_none_iff.mp entry]
      rfl
  | map entries =>
      rw [assign]
      rfl
  | _ => rfl

/-- The next position is beyond a list, or the walk goes on inside what the next segment finds. -/
theorem overruns_cons_iff (node : Node) (segment : String) (rest : List String) (error : Error) :
    Overruns node (segment :: rest) error ↔
      (∃ items index, place? node segment = some (items, index) ∧ items.length < index ∧
        error = .typeError s!"list index at most {items.length}" segment) ∨
      ∃ child, under? node segment = some child ∧ Overruns child rest error := by
  constructor
  · intro overruns
    cases overruns with
    | beyond position outside =>
        exact .inl ⟨_, _, place?_eq_some_iff.mpr ⟨rfl, position⟩, outside, rfl⟩
    | inside found later => exact .inr ⟨_, found, later⟩
  · rintro (⟨items, index, place, outside, rfl⟩ | ⟨child, found, later⟩)
    · obtain ⟨rfl, position⟩ := place?_eq_some_iff.mp place
      exact .beyond position outside
    · exact .inside found later

/-- No walk goes on from the null that stands for a missing node. -/
theorem overruns_getD_iff (found : Option Node) (rest : List String) (error : Error) :
    Overruns (found.getD .null) rest error ↔ ∃ child, found = some child ∧
      Overruns child rest error := by
  cases found with
  | some child => simp
  | none =>
      constructor
      · intro overruns
        cases overruns with
        | inside missing => cases missing
      · rintro ⟨child, missing, -⟩
        cases missing

theorem map_eq_ok_iff {α β : Type} (result : Except Error α) (next : α → β) (after : β) :
    result.map next = .ok after ↔ ∃ value, result = .ok value ∧ next value = after := by
  cases result <;> simp [Except.map]

theorem map_eq_error_iff {α β : Type} (result : Except Error α) (next : α → β) (error : Error) :
    result.map next = .error error ↔ result = .error error := by
  cases result <;> simp [Except.map]

/-- Only a position beyond the end of a list on the way makes a write fail. -/
theorem assign_eq_error_iff (value : Node) (rest : List String) (node : Node) (error : Error) :
    assign value rest node = .error error ↔ Overruns node rest error := by
  induction rest generalizing node with
  | nil =>
      constructor
      · intro failed
        cases failed
      · intro overruns
        cases overruns
  | cons segment rest inductionHypothesis =>
      rw [overruns_cons_iff]
      cases place : place? node segment with
      | some pair =>
          obtain ⟨items, index⟩ := pair
          rw [assign_of_place? value place, under?_of_place? place]
          by_cases outside : items.length < index
          · have missing : items[index]? = none := List.getElem?_eq_none_iff.mpr outside.le
            rw [if_pos outside]
            simp [missing, outside, eq_comm]
          · rw [if_neg outside, map_eq_error_iff, inductionHypothesis, overruns_getD_iff]
            simp [outside]
      | none =>
          rw [assign_of_entriesOf value place, under?_of_entriesOf place, map_eq_error_iff,
            inductionHypothesis, overruns_getD_iff]
          simp

/-- A write in place that fails leaves the node as it was. -/
theorem put_of_overruns (value : Node) {node : Node} {rest : List String} {error : Error}
    (overruns : Overruns node rest error) : put value rest node = (.error error, node) := by
  -- Every container on the way holds what the walk finds in it, so none of them grows.
  induction overruns with
  | beyond position outside =>
      simp only [put, place?_eq_some_iff.mpr ⟨rfl, position⟩]
      rw [if_pos outside]
  | @inside node child segment rest error found later inductionHypothesis =>
      cases place : place? node segment with
      | some pair =>
          obtain ⟨items, index⟩ := pair
          rw [under?_of_place? place] at found
          obtain ⟨held, same⟩ := List.getElem?_eq_some_iff.mp found
          simp only [put, place]
          rw [if_neg (by omega), if_neg (by omega), found, Option.getD_some, inductionHypothesis,
            (place?_eq_some_iff.mp place).1, ← same, List.set_getElem_self]
      | none =>
          rw [under?_of_entriesOf place] at found
          simp only [put, place]
          rw [Entries.orInsert_of_get? found, found, Option.getD_some, inductionHypothesis,
            Entries.replace_self found, map_entriesOf found]

theorem getD_grown (items : List Node) (index : Nat) :
    (if index = items.length then items ++ [.null] else items)[index]?.getD .null =
      items[index]?.getD .null := by
  split_ifs with last
  · simp [last]
  · rfl

theorem isOrdered_getD {found : Option Node} (each : ∀ node ∈ found, node.IsOrdered) :
    (found.getD .null).IsOrdered := by
  cases found with
  | some node => exact each node rfl
  | none => exact .null

theorem isOrdered_get? {entries : List (String × Node)}
    (each : ∀ entry ∈ entries, entry.2.IsOrdered) (key : String) :
    ((Entries.get? key entries).getD .null).IsOrdered :=
  isOrdered_getD fun _ found => each _ (Entries.mem_of_get? found)

theorem isOrdered_entriesOf {node : Node} (ordered : node.IsOrdered) :
    Entries.Ordered (entriesOf node) ∧ ∀ entry ∈ entriesOf node, entry.2.IsOrdered := by
  cases ordered with
  | map entries ordered each => exact ⟨ordered, each⟩
  | _ => exact ⟨.nil, by simp [entriesOf]⟩

/-- A write in place that succeeds leaves what a write yields. -/
theorem put_of_assign (value : Node) {rest : List String} {node after : Node}
    (ordered : node.IsOrdered) (written : assign value rest node = .ok after) :
    put value rest node = (.ok (), after) := by
  induction rest generalizing node after with
  | nil =>
      cases written
      rfl
  | cons segment rest inductionHypothesis =>
      cases place : place? node segment with
      | some pair =>
          obtain ⟨items, index⟩ := pair
          rw [assign_of_place? value place] at written
          by_cases outside : items.length < index
          · rw [if_pos outside] at written
            cases written
          · rw [if_neg outside, map_eq_ok_iff] at written
            obtain ⟨item, written, rfl⟩ := written
            obtain ⟨rfl, -⟩ := place?_eq_some_iff.mp place
            have each : ∀ child ∈ items[index]?, child.IsOrdered := by
              cases ordered with
              | list items each => exact fun child found => each child (List.mem_of_getElem? found)
            simp only [put, place]
            rw [if_neg outside, getD_grown, inductionHypothesis (isOrdered_getD each) written]
      | none =>
          rw [assign_of_entriesOf value place, map_eq_ok_iff] at written
          obtain ⟨item, written, rfl⟩ := written
          obtain ⟨ascending, each⟩ := isOrdered_entriesOf ordered
          simp only [put, place]
          rw [Entries.getD_get?_orInsert, inductionHypothesis (isOrdered_get? each segment) written,
            Entries.replace_orInsert ascending]

theorem set_of_segments (storage : Storage) {path root : String} {rest : List String}
    (split : segments path = root :: rest) (value : Node) :
    storage.set path value =
      (assign value rest ((Entries.get? root storage.roots).getD .null)).map fun node =>
        ⟨Entries.insert root node storage.roots⟩ := by
  rw [set, split]
  rfl

/-- The first segment of a path is walked like the others. -/
theorem set_eq_error_iff (storage : Storage) (path : String) (value : Node) (error : Error) :
    storage.set path value = .error error ↔ Overruns storage.toNode (segments path) error := by
  cases split : segments path with
  | nil =>
      rw [set, split]
      constructor
      · intro failed
        cases failed
      · intro overruns
        cases overruns
  | cons root rest =>
      rw [storage.set_of_segments split, map_eq_error_iff, assign_eq_error_iff, overruns_getD_iff,
        overruns_cons_iff]
      simp [toNode, place?, under?]

/-- A write in place to the store that fails leaves the store as it was. -/
theorem write_of_set_error {storage : Storage} {path : String} {value : Node} {error : Error}
    (failed : storage.set path value = .error error) :
    storage.write path value = (.error error, storage) := by
  cases split : segments path with
  | nil =>
      rw [set, split] at failed
      cases failed
  | cons root rest =>
      rw [storage.set_of_segments split, map_eq_error_iff, assign_eq_error_iff,
        overruns_getD_iff] at failed
      obtain ⟨child, found, overruns⟩ := failed
      cases rest with
      | nil => cases overruns
      | cons segment later =>
          simp only [write, split]
          rw [Entries.orInsert_of_get? found, found, Option.getD_some,
            put_of_overruns value overruns, Entries.replace_self found]

/-- A write in place to the store that succeeds leaves the store that a write yields. -/
theorem write_of_set_ok {storage after : Storage} {path : String} {value : Node}
    (ordered : storage.toNode.IsOrdered) (written : storage.set path value = .ok after) :
    storage.write path value = (.ok (), after) := by
  obtain ⟨ascending, each⟩ : Entries.Ordered storage.roots ∧
      ∀ entry ∈ storage.roots, entry.2.IsOrdered := isOrdered_entriesOf ordered
  cases split : segments path with
  | nil =>
      rw [set, split] at written
      cases written
      simp only [write, split]
  | cons root rest =>
      rw [storage.set_of_segments split, map_eq_ok_iff] at written
      obtain ⟨node, written, rfl⟩ := written
      cases rest with
      | nil =>
          cases written
          simp only [write, split]
      | cons segment later =>
          simp only [write, split]
          rw [Entries.getD_get?_orInsert, put_of_assign value (isOrdered_get? each root) written,
            Entries.replace_orInsert ascending]

/-- A write fails when walking the path through what is stored reaches a list that ends before the
position that comes next. A write in place then fails as well and leaves the store as it was,
although it changes containers on its way, and an action that stores leaves the world as it was.
Otherwise a write in place leaves what a write yields. -/
theorem failed_write_changes_nothing (storage : Storage) (path : String) (value : Node) :
    (∀ error, storage.set path value = .error error ↔
      Overruns storage.toNode (segments path) error) ∧
    (∀ error, storage.set path value = .error error →
      storage.write path value = (.error error, storage) ∧
        ∀ world, world.storage = storage →
          (Action.store path value).run world = (.error error, world)) ∧
    (storage.toNode.IsOrdered → ∀ after, storage.set path value = .ok after →
      storage.write path value = (.ok (), after)) := by
  refine ⟨storage.set_eq_error_iff path value, fun error failed => ⟨write_of_set_error failed, ?_⟩,
    fun ordered after written => write_of_set_ok ordered written⟩
  rintro world rfl
  rw [Action.store, Action.run_get_bind, failed]
  rfl

/-- A store with a list of one item deep inside. -/
def shelf : Storage :=
  ⟨[("a", .list [.null, .map [("b", .list [.bool true])]])]⟩

/-- The shelf refuses a fourth item and takes a second one, and what it refuses leaves no trace. -/
theorem shelf_refuses_a_gap :
    shelf.set "a.1.b.3" .null = .error (.typeError "list index at most 1" "3") ∧
    shelf.write "a.1.b.3" .null = (.error (.typeError "list index at most 1" "3"), shelf) ∧
    shelf.write "a.1.b.1" .null =
      (.ok (), ⟨[("a", .list [.null, .map [("b", .list [.bool true, .null])]])]⟩) := by
  have refused : shelf.set "a.1.b.3" .null =
      .error (.typeError "list index at most 1" "3") := rfl
  have single {key : String} {inner : Node} (ordered : inner.IsOrdered) :
      Node.IsOrdered (.map [(key, inner)]) :=
    .map _ (List.pairwise_singleton _ _) (List.forall_mem_singleton.mpr ordered)
  have ordered : shelf.toNode.IsOrdered :=
    single (.list _ (by simpa using ⟨.null, single (.list _ (by simpa using .bool true))⟩))
  exact ⟨refused, ((failed_write_changes_nothing shelf "a.1.b.3" .null).2.1 _ refused).1,
    (failed_write_changes_nothing shelf "a.1.b.1" .null).2.2 ordered _ rfl⟩

end Storage

end Reduct
