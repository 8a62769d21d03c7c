import Mathlib.Data.String.Basic
import Reduct.Proofs.Bindings
import Reduct.Proofs.Mapping
import Reduct.Proofs.Sorting

namespace Reduct

namespace Entries

variable {α β : Type}

/-- An insertion keeps the keys in order. -/
theorem ordered_insert (key : String) (value : α) {entries : List (String × α)}
    (ordered : Ordered entries) : Ordered (insert key value entries) := by
  induction entries with
  | nil => simp [Ordered, keys, insert]
  | cons entry rest inductionHypothesis =>
      obtain ⟨other, old⟩ := entry
      rw [Ordered, keys, List.map_cons, List.pairwise_cons] at ordered
      obtain ⟨least, ascending⟩ := ordered
      rw [insert]
      split_ifs with before same
      · rw [Ordered, keys, List.map_cons, List.map_cons, List.pairwise_cons, List.pairwise_cons]
        refine ⟨?_, least, ascending⟩
        rintro later (_ | ⟨_, inside⟩)
        · exact before
        · exact before.trans (least later inside)
      · subst same
        rw [Ordered, keys, List.map_cons, List.pairwise_cons]
        exact ⟨least, ascending⟩
      · rw [Ordered, keys, List.map_cons, List.pairwise_cons]
        refine ⟨fun later inside => ?_, inductionHypothesis ascending⟩
        obtain ⟨entry, member, rfl⟩ := List.mem_map.mp inside
        rcases mem_of_mem_insert member with rfl | earlier
        · exact lt_of_le_of_ne (not_lt.mp before) (Ne.symm same)
        · exact least _ (List.mem_map_of_mem earlier)

/-- Values are found where they stand, whatever becomes of them. -/
theorem get?_map (change : α → β) (key : String) (entries : List (String × α)) :
    get? key (entries.map fun (key, value) => (key, change value)) =
      (get? key entries).map change := by
  induction entries with
  | nil => rfl
  | cons entry rest inductionHypothesis =>
      obtain ⟨other, value⟩ := entry
      simp only [get?, List.map_cons, List.lookup_cons] at inductionHypothesis ⊢
      split <;> simp_all

end Entries

namespace Standard

/-- The elements of some pairs whose texts are a key. -/
def membersOf (pairs : List (Node × Node)) (key : String) : List Node :=
  (pairs.filter fun pair => pair.2.toText == key).map (·.1)

/-- Groups are in order, and each holds the elements of its key. -/
theorem groups_spec (pairs : List (Node × Node)) :
    Entries.Ordered (pairs.foldl joinGroup []) ∧
      ∀ key, Entries.get? key (pairs.foldl joinGroup []) =
        if membersOf pairs key = [] then none else some (membersOf pairs key) := by
  induction pairs using List.reverseRecOn with
  | nil => exact ⟨List.Pairwise.nil, fun key => rfl⟩
  | append_singleton earlier pair inductionHypothesis =>
      obtain ⟨ordered, found⟩ := inductionHypothesis
      rw [List.foldl_concat, joinGroup]
      refine ⟨Entries.ordered_insert _ _ ordered, fun key => ?_⟩
      have joined : membersOf (earlier ++ [pair]) key =
          membersOf earlier key ++ if pair.2.toText = key then [pair.1] else [] := by
        by_cases same : pair.2.toText = key <;> simp [membersOf, same]
      rw [Entries.get?_insert, joined, found, found]
      by_cases same : key = pair.2.toText
      · subst same
        by_cases empty : membersOf earlier pair.2.toText = [] <;> simp [empty]
      · rw [if_neg same, if_neg (Ne.symm same), List.append_nil]

/-- Numbers are grouped by the texts of their results. -/
theorem groupBy_numbers (numbers : List Float) (result : Float → Node) :
    ∃ groups, groupBy (numbers.map .number) (numbers.map result) = .map groups ∧
      Entries.Ordered groups ∧ ∀ text, Entries.get? text groups =
        let members := (numbers.filter fun number => (result number).toText == text).map Node.number
        if members = [] then none else some (.list members) := by
  have zipped : (numbers.map Node.number).zip (numbers.map result) =
      numbers.map fun number => (.number number, result number) := List.zip_map' ..
  obtain ⟨ordered, found⟩ := groups_spec ((numbers.map Node.number).zip (numbers.map result))
  refine ⟨_, rfl, ?_, fun text => ?_⟩
  · rw [Entries.Ordered, Entries.keys, List.map_map]
    exact ordered
  · have members : membersOf ((numbers.map Node.number).zip (numbers.map result)) text =
        (numbers.filter fun number => (result number).toText == text).map .number := by
      rw [zipped, membersOf, List.filter_map, List.map_map]
      rfl
    rw [Entries.get?_map, found, members]
    exact apply_ite (Option.map Node.list) _ _ _

theorem select_map (kept : Bool) (numbers : List Float) (result : Float → Node) :
    select kept (numbers.map .number) (numbers.map result) =
      (numbers.filter fun number => (result number).truthy == kept).map .number := by
  rw [select, List.zip_map', List.filter_map, List.map_map]
  rfl

/-- The element at the first true result is the first one with a true result. -/
theorem elementAt_first (numbers : List Float) (result : Float → Node) :
    elementAt (numbers.map .number) ((numbers.map result).findIdx? Node.truthy) =
      ((numbers.find? fun number => (result number).truthy).map .number).getD .null := by
  have located : ((numbers.map result).findIdx? Node.truthy).bind
      ((numbers.map Node.number)[·]?) =
        (numbers.find? fun number => (result number).truthy).map .number := by
    rw [List.findIdx?_map, List.find?_eq_bind_findIdx?_getElem?]
    simp only [List.getElem?_map, Option.map_bind]
    rfl
  rw [elementAt, located, found]
  cases numbers.find? fun number => (result number).truthy <;> rfl

/-- The element at the last true result is the last one with a true result. -/
theorem elementAt_last (numbers : List Float) (result : Float → Node) :
    elementAt (numbers.map .number) (lastTruthy? (numbers.map result)) =
      ((numbers.filter fun number => (result number).truthy).getLast?.map .number).getD .null := by
  have located : (lastTruthy? (numbers.map result)).bind ((numbers.map Node.number)[·]?) =
      (numbers.filter fun number => (result number).truthy).getLast?.map .number := by
    rw [List.getLast?_filter, List.find?_eq_bind_findIdx?_getElem?, lastTruthy?, ← List.map_reverse,
      List.findIdx?_map, List.length_map, Function.comp_def]
    cases position : numbers.reverse.findIdx? fun number => (result number).truthy with
    | none => rfl
    | some index =>
        have inside := (List.findIdx?_eq_some_iff_findIdx_eq.mp position).1
        rw [List.length_reverse] at inside
        simp only [Option.map_some, Option.bind_some, List.getElem?_map,
          List.getElem?_reverse inside]
  rw [elementAt, located, found]
  cases (numbers.filter fun number => (result number).truthy).getLast? <;> rfl

/-- What the functions that take a closure return for some numbers and a function on them. -/
structure ListLaws (returns : String → Node → Prop) (numbers : List Float)
    (result : Float → Node) : Prop where
  map : returns "list.map" (.list (numbers.map result))
  filter : returns "list.filter"
    (.list ((numbers.filter fun number => (result number).truthy).map .number))
  reject : returns "list.reject"
    (.list ((numbers.filter fun number => !(result number).truthy).map .number))
  every : returns "list.every" (.bool (numbers.all fun number => (result number).truthy))
  any : returns "list.some" (.bool (numbers.any fun number => (result number).truthy))
  find : returns "list.find"
    (((numbers.find? fun number => (result number).truthy).map .number).getD .null)
  findIndex : returns "list.find-index"
    (.number
      (((numbers.findIdx? fun number => (result number).truthy).map Float.ofNat).getD (-1.0)))
  findLast : returns "list.find-last"
    (((numbers.filter fun number => (result number).truthy).getLast?.map .number).getD .null)
  partition : returns "list.partition"
    (.list [.list ((numbers.filter fun number => (result number).truthy).map .number),
      .list ((numbers.filter fun number => !(result number).truthy).map .number)])
  groupBy : ∃ groups, returns "list.group-by" (.map groups) ∧ Entries.Ordered groups ∧
    ∀ text, Entries.get? text groups =
      let members := (numbers.filter fun number => (result number).toText == text).map Node.number
      if members = [] then none else some (.list members)
  sortBy : ∀ key : Float → Float,
    (∀ number ∈ numbers, result number = .number (key number) ∧ (key number).isNaN = false) →
      ∃ sorted : List Float, returns "list.sort-by" (.list (sorted.map .number)) ∧
        sorted.Perm numbers ∧ sorted.Pairwise (fun left right => key left ≤ key right) ∧
        ∀ number ∈ numbers, sorted.filter (fun other => key other == key number) =
          numbers.filter (fun other => key other == key number)

theorem mem_bindings_of_mem_listMappers {binding : Binding} (member : binding ∈ listMappers) :
    binding ∈ bindings := by
  simp only [bindings, lists, List.mem_append, member, true_or, or_true]

/-- The functions that take a closure, with what joins their results. -/
theorem isMapper_listMappers :
    IsMapper "list.map" (fun _ results => .quotedList results) ∧
    IsMapper "list.filter" (fun elements results => .quotedList (select true elements results)) ∧
    IsMapper "list.reject" (fun elements results => .quotedList (select false elements results)) ∧
    IsMapper "list.every" (fun _ results => .bool (results.all Node.truthy)) ∧
    IsMapper "list.some" (fun _ results => .bool (results.any Node.truthy)) ∧
    IsMapper "list.find" (fun elements results =>
      elementAt elements (results.findIdx? Node.truthy)) ∧
    IsMapper "list.find-index" (fun _ results =>
      .number (((results.findIdx? Node.truthy).map Float.ofNat).getD (-1.0))) ∧
    IsMapper "list.find-last" (fun elements results =>
      elementAt elements (lastTruthy? results)) ∧
    IsMapper "list.partition" (fun elements results =>
      .quotedList
        [.list (select true elements results), .list (select false elements results)]) ∧
    IsMapper "list.group-by" Standard.groupBy ∧
    IsMapper "list.sort-by" (fun elements results =>
      .quotedList (Standard.sortBy elements results)) := by
  refine ⟨?_, ?_, ?_, ?_, ?_, ?_, ?_, ?_, ?_, ?_, ?_⟩ <;>
    exact ⟨by decide, by decide, fun binding member => mem_bindings_of_mem_listMappers (by
      simp only [listMappers, List.mem_append, member, true_or, or_true])⟩

end Standard

/-- A number or a truth value. -/
def Node.isScalar : Node → Bool
  | .bool _ => true
  | .number _ => true
  | _ => false

theorem Node.isDatum_of_isScalar {node : Node} (scalar : node.isScalar = true) :
    node.isDatum = true := by
  cases node with
  | bool | number => rfl
  | _ => cases scalar

namespace Engine

open Standard

variable {engine : Engine} {closure : String} {numbers : List Float} {result : Float → Node}

/-- A function that takes a closure joins the results for the numbers. -/
theorem completes_numbers (inputs : Inputs) (noArguments : inputs.argv = [])
    (extended : engine.library.ExtendsStandard)
    (applies : ∀ number ∈ numbers, engine.Applies closure [.number number] (result number))
    (scalar : ∀ number ∈ numbers, (result number).isScalar = true) {name : String}
    {combine : List Node → List Node → Node} (mapper : IsMapper name combine) {value : Node}
    (answers : ∀ program, engine.settle program
      (combine (numbers.map .number) (numbers.map result)) = pure (.done value)) :
    ∃ passes made, passes ≤ 4 ∧
      engine.Completes inputs (mapping name (numbers.map .number) closure) value passes made
        (engine.mappingAmounts closure numbers.length) := by
  have data : ∀ number ∈ numbers, (result number).isDatum = true := fun number member =>
    Node.isDatum_of_isScalar (scalar number member)
  have maps := maps_numbers applies fun number member => .inl (data number member)
  have kept : ((numbers.map .number).map (onNumbers result)).filter (!·.isNull) =
      numbers.map result := by
    rw [map_onNumbers, List.filter_eq_self]
    refine List.forall_mem_map.mpr fun number member => ?_
    rw [Node.isNull_of_isDatum (data number member)]
    rfl
  have completes := completes_mapping noArguments extended mapper maps (by rwa [kept])
  rw [List.length_map] at completes
  refine ⟨_, _, ?_, completes⟩
  split <;> omega

end Engine

namespace Session

open Standard

/-- An unlimited balance lets the functions that take a closure compute what they are named for
exactly when it can pay their charges: none of them is minus infinity or no number. -/
theorem payable_iff_listLaws (session : Session) (inputs : Inputs) (closure : String)
    (numbers : List Float) (result : Float → Node) (noArguments : inputs.argv = [])
    (extended : session.engine.library.ExtendsStandard)
    (applies : ∀ number ∈ numbers, session.engine.Applies closure [.number number] (result number))
    (scalar : ∀ number ∈ numbers, (result number).isScalar = true) :
    Payable (session.engine.mappingAmounts closure numbers.length) ↔
      ∀ limit, 4 ≤ limit →
        ListLaws (fun name value => ((session.withBalance none).run inputs limit
          (mapping name (numbers.map .number) closure)).1 = .ok (some value)) numbers result := by
  obtain ⟨map, filter, reject, every, any, find, findIndex, findLast, partition, groupBy, sort⟩ :=
    isMapper_listMappers
  constructor
  · intro payable limit enough
    have returns {name : String} {combine : List Node → List Node → Node} {value : Node}
        (mapper : IsMapper name combine)
        (answers : ∀ program, session.engine.settle program
          (combine (numbers.map .number) (numbers.map result)) = pure (.done value)) :
        ((session.withBalance none).run inputs limit
          (mapping name (numbers.map .number) closure)).1 = .ok (some value) := by
      obtain ⟨passes, made, few, completes⟩ :=
        session.engine.completes_numbers inputs noArguments extended applies scalar mapper answers
      rw [(run_completes completes payable limit).1, if_neg (by omega)]
    constructor
    · exact returns map fun _ => rfl
    · refine returns filter fun _ => ?_
      rw [select_map]
      simp only [beq_true]
      rfl
    · refine returns reject fun _ => ?_
      rw [select_map]
      simp only [beq_false]
      rfl
    · refine returns every fun _ => ?_
      rw [List.all_map]
      rfl
    · refine returns any fun _ => ?_
      rw [List.any_map]
      rfl
    · refine returns find fun _ => ?_
      rw [elementAt_first]
      cases numbers.find? fun number => (result number).truthy <;> rfl
    · refine returns findIndex fun _ => ?_
      rw [List.findIdx?_map]
      rfl
    · refine returns findLast fun _ => ?_
      rw [elementAt_last]
      cases (numbers.filter fun number => (result number).truthy).getLast? <;> rfl
    · refine returns partition fun _ => ?_
      rw [select_map, select_map]
      simp only [beq_true, beq_false]
      rfl
    · obtain ⟨groups, grouped, ordered, found⟩ := groupBy_numbers numbers result
      refine ⟨groups, returns groupBy fun _ => ?_, ordered, found⟩
      rw [grouped]
      rfl
    · intro key keyed
      obtain ⟨permuted, ordered, stable⟩ :=
        mergeSort_precedes key fun number member => (keyed number member).2
      refine ⟨_, returns sort fun _ => ?_, permuted, ordered, stable⟩
      rw [sortBy_numbers key (fun number member => (keyed number member).1)
        fun number member => (keyed number member).2]
      rfl
  · intro laws
    obtain ⟨passes, made, few, completes⟩ := session.engine.completes_numbers inputs noArguments
      extended applies scalar map fun _ => rfl
    exact payable_of_run completes few (laws 4 (le_refl 4)).map

/-- A session with the standard library alone. -/
def standing (settings : Settings) : Session :=
  .start Standard.library settings .empty 0 0

theorem mem_bindings_abs : unary "math.abs" Float.abs ∈ bindings := by
  simp only [bindings, arithmetic, functionsOfNumbers, List.mem_append, List.mem_cons, true_or,
    or_true]

theorem applies_abs (settings : Settings) (number : Float) :
    (standing settings).engine.Applies "math.abs" [.number number] (.number number.abs) :=
  Engine.applies_of_mem extendsStandard_library mem_bindings_abs (by decide) rfl rfl

/-- Every law holds for absolute values in a session with the settings that it starts with. -/
theorem listLaws_abs :
    ListLaws (fun name value => (((standing {}).withBalance none).run ⟨[], none⟩ 4
        (mapping name ([3.0, -1.0, 2.0].map .number) "math.abs")).1 = .ok (some value))
      [3.0, -1.0, 2.0] fun number => .number number.abs := by
  have free : (standing {}).engine.priceCharges .global "math.abs" = [] :=
    Engine.priceCharges_offered (offers_of_mem extendsStandard_library mem_bindings_abs)
  have payable : Payable ((standing {}).engine.mappingAmounts "math.abs" 3) := by
    rw [Engine.mappingAmounts, free]
    unfold Payable
    decide +kernel
  have laws := payable_iff_listLaws (standing {}) ⟨[], none⟩ "math.abs" [3.0, -1.0, 2.0]
    (fun number => .number number.abs) rfl extendsStandard_library
    (fun number _ => applies_abs {} number) fun _ _ => rfl
  exact laws.mp payable 4 (le_refl 4)

/-- A finite amount that overflows when it is charged for each item keeps an unlimited balance from
mapping three numbers. -/
theorem abs_never_mapped :
    (∀ number, (standing { sequenceAmount := -1e308 }).engine.Applies "math.abs" [.number number]
        (.number number.abs)) ∧
      ∀ value, (((standing { sequenceAmount := -1e308 }).withBalance none).run ⟨[], none⟩ 4
        (mapping "list.map" ([3.0, -1.0, 2.0].map .number) "math.abs")).1 ≠ .ok (some value) := by
  refine ⟨applies_abs _, fun value ran => ?_⟩
  obtain ⟨passes, made, few, completes⟩ :=
    (standing { sequenceAmount := -1e308 }).engine.completes_numbers ⟨[], none⟩ rfl
      extendsStandard_library (fun number _ => applies_abs _ number) (fun _ _ => rfl)
      isMapper_listMappers.1 fun _ => rfl
  have positive := payable_of_run completes few ran (-1e308 * Float.ofNat 5) (.tail _ (.head _))
  revert positive
  decide +kernel

end Session

end Reduct
