import Reduct.Proofs.SourceRoundTrip
/-! This file describes the canonical form of nodes. The wire gives back every node without numbers
that are not finite, negative zeros and maps that look like quotes, and two nodes look the same on
the wire when they have one canonical form. -/

namespace Reduct

/-- The doubles without fields are those that are not finite. -/
theorem Number.ofFloat?_eq_none_iff (value : Float) :
    Binary.ofFloat? value = none ↔ value.isFinite = false := by
  rw [Packing.ofFloat?_eq]
  change _ ↔ value.toModel.unpack.isFinite = false
  cases value.toModel.unpack <;> simp [Packing.parts?, Float.Model.UnpackedFloat.isFinite]

namespace Node

/-- A property of all nodes follows from the parts of maps, lists and quotes. -/
theorem structuralInduction {motive : Node → Prop} (null : motive .null)
    (bool : ∀ value, motive (.bool value)) (number : ∀ value, motive (.number value))
    (string : ∀ text, motive (.string text))
    (map : ∀ entries : List (String × Node), (∀ entry ∈ entries, motive entry.2) →
      motive (.map entries))
    (list : ∀ items : List Node, (∀ item ∈ items, motive item) → motive (.list items))
    (quote : ∀ inner, motive inner → motive (.quote inner)) : ∀ node, motive node
  | .map entries => map entries fun entry member =>
      have smaller : sizeOf entry.2 < sizeOf entries := by
        have inside := List.sizeOf_lt_of_mem member
        rw [Prod.mk.sizeOf_spec] at inside
        omega
      structuralInduction null bool number string map list quote entry.2
  | .list items => list items fun item member =>
      have smaller := List.sizeOf_lt_of_mem member
      structuralInduction null bool number string map list quote item
  | .quote inner => quote inner
      (structuralInduction null bool number string map list quote inner)
  | .null => null
  | .bool value => bool value
  | .number value => number value
  | .string text => string text

/-- A node contains itself and whatever its items, its entries or its content contain. -/
inductive Contains : Node → Node → Prop
  | self (node : Node) : Contains node node
  | item {items : List Node} {item inner : Node} (member : item ∈ items)
      (inside : Contains item inner) : Contains (.list items) inner
  | entry {entries : List (String × Node)} {entry : String × Node} {inner : Node}
      (member : entry ∈ entries) (inside : Contains entry.2 inner) : Contains (.map entries) inner
  | content {content inner : Node} (inside : Contains content inner) :
      Contains (.quote content) inner

/-- The nodes that the wire gives back changed. -/
inductive IsAltered : Node → Prop
  | infinite (value : Float) (infinite : value.isFinite = false) : IsAltered (.number value)
  | negativeZero : IsAltered (.number (-0.0))
  | quoteLike (inner : Node) : IsAltered (.map [(quoteKey, inner)])

/-- A node without changed nodes at any depth. -/
def IsUnaltered (node : Node) : Prop :=
  ∀ inner, node.Contains inner → ¬ inner.IsAltered

theorem itemsOfJson_eq_map (items : List Json) : itemsOfJson items = items.map ofJson := by
  induction items with
  | nil => rfl
  | cons item items inductionHypothesis => rw [itemsOfJson, inductionHypothesis, List.map_cons]

theorem entriesOfJson_eq_map (members : List (String × Json)) :
    entriesOfJson members = members.map fun member => (member.1, ofJson member.2) := by
  induction members with
  | nil => rfl
  | cons member members inductionHypothesis =>
    rw [entriesOfJson, inductionHypothesis, List.map_cons]

theorem integer?_negativeZero : Number.integer? (-0.0) = some 0 := by decide +kernel

/-- A finite double is an integer on the wire when it holds a small one, and itself otherwise. -/
theorem numberToJson_of_isFinite (value : Float) (finite : value.isFinite = true) :
    numberToJson value = .number (.real value) ∧ value ≠ -0.0 ∨
      ∃ units : Int, Number.integer? value = some units ∧ units.natAbs < 2 ^ 53 ∧
        numberToJson value = .number (.integer units) := by
  obtain ⟨binary, fields⟩ : ∃ binary, Number.Binary.ofFloat? value = some binary := by
    rw [← Option.ne_none_iff_exists', Ne, Number.ofFloat?_eq_none_iff, finite]
    simp
  cases small : binary.isWhole && decide (value.abs < 9007199254740992.0) with
  | true =>
      obtain ⟨whole, below⟩ := Bool.and_eq_true_iff.mp small
      have integer : Number.integer? value = some binary.truncate := by
        simp [Number.integer?, fields, whole]
      have bound := (Number.abs_lt_iff value _ integer).mp (by simpa using below)
      exact .inr ⟨binary.truncate, integer, bound, numberToJson_of_integer? integer bound⟩
  | false =>
      have real : numberToJson value = .number (.real value) := by
        simp only [numberToJson, fields, small]
        rfl
      refine .inl ⟨real, ?_⟩
      rintro rfl
      rw [numberToJson_of_integer? integer?_negativeZero (by decide)] at real
      cases real

/-- A number that is not finite becomes null, and the negative zero loses its sign. -/
theorem canonical_number (value : Float) :
    canonical (.number value) =
      if value.isFinite = false then .null
      else if value = -0.0 then .number 0.0 else .number value := by
  rw [canonical, toJson]
  split_ifs with infinite negative
  · rw [numberToJson, (Number.ofFloat?_eq_none_iff value).mpr infinite]
    rfl
  · rw [negative, numberToJson_of_integer? integer?_negativeZero (by decide), ofJson,
      Json.Number.toFloat, show Float.ofInt 0 = 0.0 by decide +kernel]
  · obtain ⟨real, -⟩ | ⟨units, integer, small, written⟩ :=
      numberToJson_of_isFinite value (by simpa using infinite)
    · rw [real]
      rfl
    · rw [written, ofJson, Json.Number.toFloat,
        Number.ofInt_of_integer? value units integer small negative]

@[simp] theorem canonical_list (items : List Node) :
    canonical (.list items) = .list (items.map canonical) := by
  rw [canonical, toJson, ofJson, itemsToJson_eq_map, itemsOfJson_eq_map, List.map_map]
  rfl

@[simp] theorem canonical_quote (inner : Node) :
    canonical (.quote inner) = .quote inner.canonical := by
  rw [canonical, toJson, ofJson, if_pos rfl, canonical]

/-- A map that looks like a quote becomes one. -/
@[simp] theorem canonical_quoteLike (inner : Node) :
    canonical (.map [(quoteKey, inner)]) = .quote inner.canonical := by
  rw [canonical, toJson, entriesToJson, entriesToJson, ofJson, if_pos rfl, canonical]

theorem canonical_map (entries : List (String × Node))
    (different : ∀ inner, entries ≠ [(quoteKey, inner)]) :
    canonical (.map entries) = .map (entries.map fun entry => (entry.1, entry.2.canonical)) := by
  have members : entriesOfJson (entriesToJson entries) =
      entries.map fun entry => (entry.1, entry.2.canonical) := by
    rw [entriesToJson_eq_map, entriesOfJson_eq_map, List.map_map]
    rfl
  rw [← members, canonical, toJson]
  rcases entries with _ | ⟨⟨key, inner⟩, _ | ⟨second, rest⟩⟩
  · rfl
  · have other : key ≠ quoteKey := by
      rintro rfl
      exact different inner rfl
    rw [entriesToJson, entriesToJson, ofJson, if_neg other]
    rfl
  · rfl

/-- Canonical form keeps what stands on the wire. -/
theorem toJson_canonical (node : Node) : node.canonical.toJson = node.toJson := by
  induction node using structuralInduction with
  | null => rfl
  | bool value => rfl
  | number value =>
      rw [canonical_number]
      split_ifs with infinite negative
      · rw [toJson, toJson, numberToJson, (Number.ofFloat?_eq_none_iff value).mpr infinite]
      · have zero : Number.integer? 0.0 = some 0 := by decide +kernel
        rw [negative, toJson, toJson, numberToJson_of_integer? zero (by decide),
          numberToJson_of_integer? integer?_negativeZero (by decide)]
      · rfl
  | string text => rfl
  | map entries inductionHypothesis =>
      by_cases quoteLike : ∃ inner, entries = [(quoteKey, inner)]
      · obtain ⟨inner, rfl⟩ := quoteLike
        rw [canonical_quoteLike, toJson, toJson, inductionHypothesis (quoteKey, inner) (.head [])]
        rfl
      · rw [canonical_map entries fun inner same => quoteLike ⟨inner, same⟩, toJson, toJson,
          entriesToJson_eq_map, entriesToJson_eq_map, List.map_map]
        congr 1
        exact List.map_congr_left fun entry member =>
          congrArg (Prod.mk entry.1) (inductionHypothesis entry member)
  | list items inductionHypothesis =>
      rw [canonical_list, toJson, toJson, itemsToJson_eq_map, itemsToJson_eq_map, List.map_map]
      congr 1
      exact List.map_congr_left inductionHypothesis
  | quote inner inductionHypothesis =>
      rw [canonical_quote, toJson, toJson, inductionHypothesis]

theorem isUnaltered_number_iff (value : Float) :
    IsUnaltered (.number value) ↔ value.isFinite = true ∧ value ≠ -0.0 := by
  constructor
  · intro unaltered
    refine ⟨?_, ?_⟩
    · rw [← Bool.not_eq_false]
      exact fun infinite => unaltered _ (.self _) (.infinite value infinite)
    · rintro rfl
      exact unaltered _ (.self _) .negativeZero
  · rintro ⟨finite, unsigned⟩ inner inside altered
    cases inside
    cases altered with
    | infinite _ infinite => simp [finite] at infinite
    | negativeZero => exact unsigned rfl

theorem isUnaltered_map_iff (entries : List (String × Node)) :
    IsUnaltered (.map entries) ↔
      (∀ inner, entries ≠ [(quoteKey, inner)]) ∧ ∀ entry ∈ entries, entry.2.IsUnaltered := by
  constructor
  · intro unaltered
    refine ⟨?_, fun entry member inner inside => unaltered inner (.entry member inside)⟩
    rintro inner rfl
    exact unaltered _ (.self _) (.quoteLike inner)
  · rintro ⟨different, each⟩ inner inside altered
    cases inside with
    | self =>
        cases altered with
        | quoteLike inner => exact different inner rfl
    | entry member inside => exact each _ member inner inside altered

theorem isUnaltered_list_iff (items : List Node) :
    IsUnaltered (.list items) ↔ ∀ item ∈ items, item.IsUnaltered := by
  constructor
  · exact fun unaltered item member inner inside => unaltered inner (.item member inside)
  · intro each inner inside altered
    cases inside with
    | self => cases altered
    | item member inside => exact each _ member inner inside altered

theorem isUnaltered_quote_iff (content : Node) :
    IsUnaltered (.quote content) ↔ content.IsUnaltered := by
  constructor
  · exact fun unaltered inner inside => unaltered inner (.content inside)
  · intro unaltered inner inside altered
    cases inside with
    | self => cases altered
    | content inside => exact unaltered inner inside altered

/-- Nothing in a canonical form is changed again. -/
theorem isUnaltered_canonical (node : Node) : node.canonical.IsUnaltered := by
  have null : IsUnaltered .null := by
    intro inner inside altered
    cases inside
    cases altered
  induction node using structuralInduction with
  | null => exact null
  | bool value =>
      intro inner inside altered
      cases inside
      cases altered
  | number value =>
      rw [canonical_number]
      split_ifs with infinite negative
      · exact null
      · rw [isUnaltered_number_iff]
        decide +kernel
      · rw [isUnaltered_number_iff]
        exact ⟨by simpa using infinite, negative⟩
  | string text =>
      intro inner inside altered
      cases inside
      cases altered
  | map entries inductionHypothesis =>
      by_cases quoteLike : ∃ inner, entries = [(quoteKey, inner)]
      · obtain ⟨inner, rfl⟩ := quoteLike
        rw [canonical_quoteLike, isUnaltered_quote_iff]
        exact inductionHypothesis (quoteKey, inner) (.head [])
      · rw [canonical_map entries fun inner same => quoteLike ⟨inner, same⟩, isUnaltered_map_iff]
        refine ⟨fun inner same => ?_, ?_⟩
        · obtain ⟨⟨key, content⟩, rfl, same⟩ := List.map_eq_singleton_iff.mp same
          cases same
          exact quoteLike ⟨content, rfl⟩
        · simpa only [List.forall_mem_map] using inductionHypothesis
  | list items inductionHypothesis =>
      rw [canonical_list, isUnaltered_list_iff]
      simpa using inductionHypothesis
  | quote inner inductionHypothesis =>
      rw [canonical_quote, isUnaltered_quote_iff]
      exact inductionHypothesis

/-- The wire gives back a node in which it changes nothing. -/
theorem canonical_of_isUnaltered (node : Node) (unaltered : node.IsUnaltered) :
    node.canonical = node := by
  induction node using structuralInduction with
  | null => rfl
  | bool value => rfl
  | number value =>
      obtain ⟨finite, unsigned⟩ := (isUnaltered_number_iff value).mp unaltered
      rw [canonical_number, if_neg (by simp [finite]), if_neg unsigned]
  | string text => rfl
  | map entries inductionHypothesis =>
      obtain ⟨different, each⟩ := (isUnaltered_map_iff entries).mp unaltered
      rw [canonical_map entries different]
      congr 1
      refine (List.map_congr_left fun entry member => ?_).trans (List.map_id entries)
      rw [inductionHypothesis entry member (each entry member)]
      rfl
  | list items inductionHypothesis =>
      rw [isUnaltered_list_iff] at unaltered
      rw [canonical_list]
      congr 1
      exact (List.map_congr_left fun item member =>
        inductionHypothesis item member (unaltered item member)).trans (List.map_id items)
  | quote inner inductionHypothesis =>
      rw [isUnaltered_quote_iff] at unaltered
      rw [canonical_quote, inductionHypothesis unaltered]

/-- Items that agree one by one are the same when agreement is equality for each of them. -/
theorem agreeItems_iff {related : Float → Float → Bool} {lefts rights : List Node}
    (each : ∀ left ∈ lefts, ∀ right ∈ rights, agree related left right = true ↔ left = right) :
    agreeItems related lefts rights = true ↔ lefts = rights := by
  induction lefts generalizing rights with
  | nil => cases rights <;> simp [agreeItems]
  | cons left lefts inductionHypothesis =>
      cases rights with
      | nil => simp [agreeItems]
      | cons right rights =>
          rw [agreeItems, Bool.and_eq_true, each left (.head _) right (.head _),
            inductionHypothesis fun left first right second =>
              each left (.tail _ first) right (.tail _ second), List.cons.injEq]

theorem agreeEntries_iff {related : Float → Float → Bool} {lefts rights : List (String × Node)}
    (each : ∀ left ∈ lefts, ∀ right ∈ rights,
      agree related left.2 right.2 = true ↔ left.2 = right.2) :
    agreeEntries related lefts rights = true ↔ lefts = rights := by
  induction lefts generalizing rights with
  | nil => cases rights <;> simp [agreeEntries]
  | cons left lefts inductionHypothesis =>
      cases rights with
      | nil => simp [agreeEntries]
      | cons right rights =>
          obtain ⟨leftKey, left⟩ := left
          obtain ⟨rightKey, right⟩ := right
          have values : agree related left right = true ↔ left = right :=
            each (leftKey, left) (.head _) (rightKey, right) (.head _)
          rw [agreeEntries, Bool.and_eq_true, Bool.and_eq_true, beq_iff_eq, values,
            inductionHypothesis fun left first right second =>
              each left (.tail _ first) right (.tail _ second), List.cons.injEq, Prod.mk.injEq]

/-- Finite doubles other than the negative zero are equal numbers when they are the same. -/
theorem beq_iff_of_isUnaltered {left right : Float} (first : IsUnaltered (.number left))
    (second : IsUnaltered (.number right)) : (left == right) = true ↔ left = right := by
  obtain ⟨leftFinite, leftUnsigned⟩ := (isUnaltered_number_iff left).mp first
  obtain ⟨rightFinite, rightUnsigned⟩ := (isUnaltered_number_iff right).mp second
  have number (value : Float) (finite : value.isFinite = true) : value ≠ Float.nan := by
    rintro rfl
    exact absurd finite (by decide +kernel)
  rw [Float.beq_iff_ne_nan_and_eq]
  constructor
  · rintro ⟨-, -, same | ⟨-, negative⟩ | ⟨negative, -⟩⟩
    · exact same
    · exact absurd negative rightUnsigned
    · exact absurd negative leftUnsigned
  · exact fun same => ⟨number left leftFinite, number right rightFinite, .inl same⟩

/-- Nodes in which the wire changes nothing are equal when they are the same. -/
theorem equal_iff_of_isUnaltered (left right : Node) (first : left.IsUnaltered)
    (second : right.IsUnaltered) : left.equal right = true ↔ left = right := by
  unfold equal
  induction left using structuralInduction generalizing right with
  | null => cases right <;> simp [agree]
  | bool value => cases right <;> simp [agree]
  | number value =>
      cases right with
      | number other =>
          rw [agree, beq_iff_of_isUnaltered first second, Node.number.injEq]
      | _ => simp [agree]
  | string text => cases right <;> simp [agree]
  | map entries inductionHypothesis =>
      cases right with
      | map others =>
          obtain ⟨-, firsts⟩ := (isUnaltered_map_iff entries).mp first
          obtain ⟨-, seconds⟩ := (isUnaltered_map_iff others).mp second
          rw [agree, Node.map.injEq]
          exact agreeEntries_iff fun left inside right within =>
            inductionHypothesis left inside right.2 (firsts left inside) (seconds right within)
      | _ => simp [agree]
  | list items inductionHypothesis =>
      cases right with
      | list others =>
          rw [isUnaltered_list_iff] at first second
          rw [agree, Node.list.injEq]
          exact agreeItems_iff fun left inside right within =>
            inductionHypothesis left inside right (first left inside) (second right within)
      | _ => simp [agree]
  | quote inner inductionHypothesis =>
      cases right with
      | quote other =>
          rw [isUnaltered_quote_iff] at first second
          rw [agree, inductionHypothesis other first second, Node.quote.injEq]
      | _ => simp [agree]

@[simp] theorem canonical_canonical (node : Node) : node.canonical.canonical = node.canonical :=
  congrArg ofJson node.toJson_canonical

/-- A program that is assembled from tokens is in canonical form. -/
theorem map_canonical_ofTokens (tokens : List Token) :
    (ofTokens tokens).map canonical = ofTokens tokens := by
  unfold ofTokens
  cases Assembly.empty.steps tokens with
  | error error => rfl
  | ok assembly =>
      change Except.map canonical (if assembly.closed < assembly.opened then _ else _) = ite _ _ _
      split_ifs with unclosed
      · rfl
      · exact congrArg Except.ok (canonical_canonical _)

/-- Canonical form is the form of the wire. It keeps what stands on the wire, so taking it twice
changes nothing more, and two nodes have it in common when they look the same on the wire. A node is
in canonical form when it contains no number that is not finite, no negative zero and no map with
the quote key alone, and so is every program that is assembled from tokens. -/
theorem canonical_is_wire_form :
    (∀ node : Node, node.canonical.toJson = node.toJson) ∧
      (∀ node : Node, node.canonical.canonical = node.canonical) ∧
      (∀ left right : Node, left.toJson = right.toJson ↔ left.canonical = right.canonical) ∧
      (∀ left right : Node,
        left.toJson = right.toJson ↔ left.canonical.equal right.canonical = true) ∧
      (∀ node : Node, node.canonical = node ↔ ∀ inner, node.Contains inner → ¬ inner.IsAltered) ∧
      ∀ tokens : List Token, (ofTokens tokens).map canonical = ofTokens tokens := by
  have wire (left right : Node) :
      left.toJson = right.toJson ↔ left.canonical = right.canonical := by
    refine ⟨congrArg ofJson, fun same => ?_⟩
    rw [← left.toJson_canonical, same, right.toJson_canonical]
  refine ⟨toJson_canonical, canonical_canonical, wire, fun left right => ?_, fun node => ?_,
    map_canonical_ofTokens⟩
  · rw [wire, equal_iff_of_isUnaltered _ _ left.isUnaltered_canonical right.isUnaltered_canonical]
  · refine ⟨fun same => ?_, node.canonical_of_isUnaltered⟩
    rw [← same]
    exact node.isUnaltered_canonical

end Node

end Reduct
