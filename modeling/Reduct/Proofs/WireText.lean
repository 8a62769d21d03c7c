import Mathlib.Tactic
import Reduct.Proofs.ExactInteger
import Reduct.Proofs.JsonText
import Reduct.Proofs.Lookup
import Reduct.Standard

namespace Reduct

namespace Node

mutual

/-- The depth of the maps, lists and quotes of a node. -/
def nesting : Node → Nat
  | .null => 0
  | .bool _ => 0
  | .number _ => 0
  | .string _ => 0
  | .map entries => nestingEntries entries + 1
  | .list items => nestingItems items + 1
  | .quote inner => nesting inner + 1

def nestingItems : List Node → Nat
  | [] => 0
  | item :: rest => max (nesting item) (nestingItems rest)

def nestingEntries : List (String × Node) → Nat
  | [] => 0
  | (_, value) :: rest => max (nesting value) (nestingEntries rest)

end

mutual

/-- The numbers of a node from left to right. -/
def numbers : Node → List Float
  | .null => []
  | .bool _ => []
  | .number value => [value]
  | .string _ => []
  | .map entries => numbersOfEntries entries
  | .list items => numbersOfItems items
  | .quote inner => numbers inner

def numbersOfItems : List Node → List Float
  | [] => []
  | item :: rest => numbers item ++ numbersOfItems rest

def numbersOfEntries : List (String × Node) → List Float
  | [] => []
  | (_, value) :: rest => numbers value ++ numbersOfEntries rest

end

/-- Every map of a node is in the order of its keys. -/
inductive IsOrdered : Node → Prop
  | null : IsOrdered .null
  | bool (value : Bool) : IsOrdered (.bool value)
  | number (value : Float) : IsOrdered (.number value)
  | string (text : String) : IsOrdered (.string text)
  | map (entries : List (String × Node)) (ordered : Entries.Ordered entries)
      (each : ∀ entry ∈ entries, IsOrdered entry.2) : IsOrdered (.map entries)
  | list (items : List Node) (each : ∀ item ∈ items, IsOrdered item) : IsOrdered (.list items)
  | quote (inner : Node) (inside : IsOrdered inner) : IsOrdered (.quote inner)

/-- A double that is written with a point or an exponent is the one that its text is read as. -/
def IsReadBack (value : Float) : Prop :=
  numberToJson value = .number (.real value) →
    Json.Reader.number (Json.floatChars value) = .ok (.real value, [])

theorem numberToJson_cases (value : Float) :
    numberToJson value = .null ∨ numberToJson value = .number (.real value) ∨
      ∃ units : Int, numberToJson value = .number (.integer units) ∧ units.natAbs < 2 ^ 53 := by
  unfold numberToJson
  split
  · exact .inl rfl
  · rename_i binary fields
    split
    · rename_i small
      obtain ⟨whole, below⟩ := Bool.and_eq_true_iff.mp small
      have integer : Number.integer? value = some binary.truncate := by
        simp [Number.integer?, fields, whole]
      exact .inr (.inr ⟨binary.truncate, rfl,
        (Number.abs_lt_iff value _ integer).mp (by simpa using below)⟩)
    · exact .inr (.inl rfl)

/-- Whether a double is read back can be computed. -/
instance : DecidablePred IsReadBack := fun value =>
  decidable_of_iff
    ((match numberToJson value, Json.Reader.number (Json.floatChars value) with
      | .number (.real _), .ok (.real back, []) => decide (back = value)
      | .number (.real _), _ => false
      | _, _ => true) = true) (by
    unfold IsReadBack
    rcases numberToJson_cases value with null | real | ⟨units, integer, -⟩
    · simp [null]
    · rw [real]
      split <;> simp_all
    · simp [integer])

mutual

/-- The wire form of a node is nested as deeply as the node. -/
theorem nesting_toJson : ∀ node : Node, node.toJson.nesting = node.nesting
  | .null => rfl
  | .bool _ => rfl
  | .number value => by
    rw [toJson]
    rcases numberToJson_cases value with null | real | ⟨units, integer, -⟩
    · rw [null]
      rfl
    · rw [real]
      rfl
    · rw [integer]
      rfl
  | .string _ => rfl
  | .map entries => by
    rw [toJson, Json.nesting, nestingMembers_entriesToJson entries, nesting]
  | .list items => by
    rw [toJson, Json.nesting, nestingItems_itemsToJson items, nesting]
  | .quote inner => by
    rw [toJson, Json.nesting, Json.nestingMembers, Json.nestingMembers, nesting_toJson inner,
      nesting, Nat.max_zero]

theorem nestingItems_itemsToJson :
    ∀ items : List Node, Json.nestingItems (itemsToJson items) = nestingItems items
  | [] => rfl
  | item :: rest => by
    rw [itemsToJson, Json.nestingItems, nesting_toJson item, nestingItems_itemsToJson rest,
      nestingItems]

theorem nestingMembers_entriesToJson :
    ∀ entries : List (String × Node),
      Json.nestingMembers (entriesToJson entries) = nestingEntries entries
  | [] => rfl
  | (_, value) :: rest => by
    rw [entriesToJson, Json.nestingMembers, nesting_toJson value,
      nestingMembers_entriesToJson rest, nestingEntries]

end

theorem itemsToJson_eq_map (items : List Node) : itemsToJson items = items.map toJson := by
  induction items with
  | nil => rfl
  | cons item items inductionHypothesis => rw [itemsToJson, inductionHypothesis, List.map_cons]

theorem entriesToJson_eq_map (entries : List (String × Node)) :
    entriesToJson entries = entries.map fun entry => (entry.1, entry.2.toJson) := by
  induction entries with
  | nil => rfl
  | cons entry entries inductionHypothesis =>
    rw [entriesToJson, inductionHypothesis, List.map_cons]

theorem numbers_subset_of_mem_items {item : Node} {items : List Node} (inside : item ∈ items) :
    numbers item ⊆ numbersOfItems items := by
  induction items with
  | nil => cases inside
  | cons first rest inductionHypothesis =>
    rw [numbersOfItems]
    rcases List.mem_cons.mp inside with rfl | later
    · exact List.subset_append_left _ _
    · exact List.subset_append_of_subset_right _ (inductionHypothesis later)

theorem numbers_subset_of_mem_entries {entry : String × Node} {entries : List (String × Node)}
    (inside : entry ∈ entries) : numbers entry.2 ⊆ numbersOfEntries entries := by
  induction entries with
  | nil => cases inside
  | cons first rest inductionHypothesis =>
    rw [numbersOfEntries]
    rcases List.mem_cons.mp inside with rfl | later
    · exact List.subset_append_left _ _
    · exact List.subset_append_of_subset_right _ (inductionHypothesis later)

/-- The wire form of a node in order is writable when its numbers are read back. -/
theorem isWritable_toJson {node : Node} (ordered : node.IsOrdered)
    (readBack : ∀ value ∈ node.numbers, IsReadBack value) : node.toJson.IsWritable := by
  induction ordered with
  | null => exact .null
  | bool value => exact .bool value
  | number value =>
    rw [toJson]
    rcases numberToJson_cases value with null | real | ⟨units, integer, small⟩
    · rw [null]
      exact .null
    · rw [real]
      exact .real value (readBack value (List.mem_singleton_self value) real)
    · rw [integer]
      exact .integer units (by omega) (by omega)
  | string text => exact .string text
  | map entries sorted each inductionHypothesis =>
    rw [toJson, entriesToJson_eq_map]
    refine .object _ ?_ ?_
    · rw [Entries.Ordered, Entries.keys, List.map_map]
      exact sorted
    · simp only [List.forall_mem_map]
      exact fun entry inside => inductionHypothesis entry inside fun value found =>
        readBack value (numbers_subset_of_mem_entries inside found)
  | list items each inductionHypothesis =>
    rw [toJson, itemsToJson_eq_map]
    refine .array _ ?_
    simp only [List.forall_mem_map]
    exact fun item inside => inductionHypothesis item inside fun value found =>
      readBack value (numbers_subset_of_mem_items inside found)
  | quote inner inside inductionHypothesis =>
    rw [toJson]
    exact .object _ (by simp [Entries.Ordered, Entries.keys])
      (by simpa using inductionHypothesis readBack)

/-- A node is read back in canonical form unless it is nested too deeply. -/
theorem read_render {node : Node} (ordered : node.IsOrdered)
    (readBack : ∀ value ∈ node.numbers, IsReadBack value) :
    read node.render =
      Json.Reader.limited Json.Reader.maximumDepth node.nesting node.canonical := by
  rw [read, render, Json.read_render (isWritable_toJson ordered readBack), nesting_toJson]
  exact Json.Reader.limited_map _ _ node.toJson ofJson

end Node

namespace Standard

def wireWriter : Function :=
  ⟨some (.ofTags ["*"]), false,
    fun _ arguments => Action.lift (.ok (.string (argument arguments 0).render))⟩

def wireReader : Function :=
  ⟨some (.ofTags ["string"]), false, fun _ arguments => Action.lift (ofWireText arguments)⟩

theorem function?_toJson : library.function? "hash.to-json" .global = some wireWriter :=
  Table.function?_bindAll (constants ++ casters ++ arithmetic ++ closures ++ control ++
    definitions ++ lists ++ hashes.take 4) (hashes.drop 5 ++ words ++ digests ++ clock ++ store) _ _
    (by decide)

theorem function?_fromJson : library.function? "hash.from-json" .global = some wireReader :=
  Table.function?_bindAll (constants ++ casters ++ arithmetic ++ closures ++ control ++
    definitions ++ lists ++ hashes.take 5) (hashes.drop 6 ++ words ++ digests ++ clock ++ store) _ _
    (by decide)

/-- The two functions one after the other withhold the node that is read back. -/
theorem run_wire (node : Node) (first second : Call) (world : World) :
    (do wireReader.call second [← wireWriter.call first [node]]).run world =
      (match Node.read node.render with
        | .ok back => .ok back.withheld
        | .error fault => .error (.typeError "JSON text" fault.message), world) :=
  Action.run_lift (ofWireText [.string node.render]) world

end Standard

namespace Node

/-- A node nested at most one hundred and twenty-seven deep is read back from its wire text in
canonical form, and the functions of the standard library withhold it when it is a list. A node
nested more deeply is not read back. -/
theorem read_render_canonical (node : Node) (ordered : node.IsOrdered)
    (readBack : ∀ value ∈ node.numbers, IsReadBack value) :
    ∃ writer reader : Function,
      Standard.library.function? "hash.to-json" .global = some writer ∧
      Standard.library.function? "hash.from-json" .global = some reader ∧
      (node.nesting ≤ 127 →
        read node.render = .ok node.canonical ∧
        ∀ first second world, (do reader.call second [← writer.call first [node]]).run world =
          (.ok node.canonical.withheld, world)) ∧
      (128 ≤ node.nesting →
        read node.render = .error .recursionLimit ∧
        ∀ first second world, (do reader.call second [← writer.call first [node]]).run world =
          (.error (.typeError "JSON text" Json.Fault.recursionLimit.message), world)) := by
  refine ⟨_, _, Standard.function?_toJson, Standard.function?_fromJson, fun shallow => ?_,
    fun deep => ?_⟩
  · have found : read node.render = .ok node.canonical :=
      (read_render ordered readBack).trans (Json.Reader.limited_of_le shallow _)
    refine ⟨found, fun first second world => ?_⟩
    rw [Standard.run_wire, found]
  · have refused : read node.render = .error .recursionLimit :=
      (read_render ordered readBack).trans (Json.Reader.limited_of_lt deep _)
    refine ⟨refused, fun first second world => ?_⟩
    rw [Standard.run_wire, refused]

/-- A list with a map that looks like a quote, an escaped text and numbers of all kinds. -/
def crowded : Node :=
  .list [.map [(quoteKey, .list [.number (-0.0)])], .string "\"\\\n\x01", .number 2.5,
    .number 1e300, .number (1.0 / 0.0), .map [("", .null), (quoteKey, .quote (.list []))]]

theorem isOrdered_crowded : crowded.IsOrdered := by
  have single : Entries.Ordered [(quoteKey, Node.list [.number (-0.0)])] := by
    simp [Entries.Ordered, Entries.keys]
  have double : Entries.Ordered [("", Node.null), (quoteKey, .quote (.list []))] := by
    unfold Entries.Ordered
    decide
  refine .list _ ?_
  simp only [List.forall_mem_cons]
  refine ⟨.map _ single ?_, .string _, .number _, .number _, .number _, .map _ double ?_, by simp⟩
  · simpa using IsOrdered.list [.number (-0.0)] (by simpa using IsOrdered.number (-0.0))
  · simpa using ⟨IsOrdered.null, IsOrdered.quote _ (.list [] (by simp))⟩

/-- Quotes around null. -/
def quotedNull : Nat → Node
  | 0 => .null
  | depth + 1 => .quote (quotedNull depth)

theorem isOrdered_quotedNull (depth : Nat) : (quotedNull depth).IsOrdered := by
  induction depth with
  | zero => exact .null
  | succ depth inductionHypothesis => exact .quote _ inductionHypothesis

/-- The crowded list is read back, and one quote too many is refused. -/
theorem crowded_and_quotedNull_read :
    read crowded.render = .ok crowded.canonical ∧
      read (quotedNull 127).render = .ok (quotedNull 127).canonical ∧
      read (quotedNull 128).render = .error .recursionLimit := by
  obtain ⟨_, _, _, _, shallow, -⟩ :=
    read_render_canonical crowded isOrdered_crowded (by decide +kernel)
  obtain ⟨_, _, _, _, deepest, -⟩ :=
    read_render_canonical (quotedNull 127) (isOrdered_quotedNull 127) (by decide +kernel)
  obtain ⟨_, _, _, _, -, deep⟩ :=
    read_render_canonical (quotedNull 128) (isOrdered_quotedNull 128) (by decide +kernel)
  exact ⟨(shallow (by decide)).1, (deepest (by decide +kernel)).1, (deep (by decide +kernel)).1⟩

end Node

end Reduct
