import Reduct.Proofs.Bindings
import Reduct.Proofs.Enclosure
import Reduct.Proofs.Forwarding
/-! This file shows that arithmetic stays among atoms: it answers null, truth values, numbers and
texts of some length with an atom, and never with a text of that length that it was not given. So
every pass over nested calls of arithmetic leaves lighter calls, until they are atoms. -/

namespace Reduct

namespace Number

theorem Layout.positionalText_ne_nil (layout : Layout) (decimal : Decimal) :
    layout.positionalText decimal ≠ [] := by
  have digits : decimal.text ≠ [] := Nat.toDigits_ne_nil
  rw [Layout.positionalText]
  dsimp only
  split_ifs <;> simp [digits]

theorem Layout.ne_empty_of_write? {value : Float} {text : String}
    (written : Layout.plain.write? value = some text) : text ≠ "" := by
  obtain ⟨binary, -, rfl⟩ := Option.map_eq_some_iff.mp written
  have magnitude : Layout.plain.magnitudeText binary ≠ [] := by
    rw [Layout.magnitudeText]
    dsimp only
    split_ifs with zero positional
    · exact Layout.positionalText_ne_nil _ _
    · exact Layout.positionalText_ne_nil _ _
    · exact absurd rfl positional
  simp [magnitude]

/-- A number is never shown as the empty text. -/
theorem display_ne_empty (value : Float) : display value ≠ "" := by
  have either {condition : Prop} [Decidable condition] {first second : String}
      (left : first ≠ "") (right : second ≠ "") : (if condition then first else second) ≠ "" := by
    split_ifs
    · exact left
    · exact right
  have whole (integer : Int) : toString integer ≠ "" := by
    cases integer <;> simp [toString, Int.repr]
  rw [display]
  refine either (by decide) (either (by decide) ?_)
  cases written : Layout.plain.write? value with
  | none => exact either (by decide) (by decide)
  | some text =>
      cases integer? value with
      | none => exact Layout.ne_empty_of_write? written
      | some integer => exact either (whole integer) (Layout.ne_empty_of_write? written)

end Number

namespace Node

theorem weight_of_isValue {node : Node} (ready : node.isValue = true) : node.weight ≤ 2 := by
  cases node with
  | list items =>
      obtain rfl := List.isEmpty_iff.mp ready
      simp [weight, weights]
  | _ => simp [weight]

/-- A null, a truth value, a number, or a text that is long enough. -/
def isAtom (least : Nat) : Node → Bool
  | .null | .bool _ | .number _ => true
  | .string text => least ≤ text.length
  | _ => false

variable {least : Nat} {node left right : Node}

theorem isValue_of_isAtom (atom : node.isAtom least = true) : node.isValue = true := by
  cases node with
  | list | map | quote => cases atom
  | _ => rfl

theorem unquoted_of_isAtom (atom : node.isAtom least = true) : node.unquoted = node := by
  cases node with
  | list | map | quote => cases atom
  | _ => rfl

/-- How long a text has to be is nothing to other atoms. -/
theorem isAtom_of_string?_none (textless : node.string? = none)
    (atom : node.isAtom 0 = true) (least : Nat) : node.isAtom least = true := by
  cases node with
  | string text => cases textless
  | list | map | quote => cases atom
  | _ => rfl

theorem isAtom_of_succ (atom : node.isAtom (least + 1) = true) :
    node.isAtom least = true := by
  cases node with
  | string text =>
      rw [isAtom, decide_eq_true_eq] at atom ⊢
      omega
  | list | map | quote => cases atom
  | _ => rfl

/-- A longer text is another. -/
theorem ne_of_isAtom_succ {text : String} (atom : node.isAtom (text.length + 1) = true) :
    node ≠ .string text := by
  rintro rfl
  rw [isAtom, decide_eq_true_eq] at atom
  omega

theorem length_toText_pos (positive : 0 < least) (atom : node.isAtom least = true) :
    0 < node.toText.length := by
  cases node with
  | null => decide
  | bool value => cases value <;> decide
  | number value =>
      rw [toText, Nat.pos_iff_ne_zero, Ne, String.length_eq_zero_iff]
      exact Number.display_ne_empty value
  | string text =>
      rw [isAtom, decide_eq_true_eq] at atom
      rw [toText]
      omega
  | list | map | quote => cases atom

/-- Atoms add up to a number or to a longer text. -/
theorem isAtom_add (positive : 0 < least) (leftAtom : left.isAtom least = true)
    (rightAtom : right.isAtom least = true) :
    (add left right).isAtom (least + 1) = true := by
  have first := length_toText_pos positive leftAtom
  have second := length_toText_pos positive rightAtom
  have textual (text : String) (atom : (Node.string text).isAtom least = true) :
      least ≤ (Node.string text).toText.length := by
    rw [toText]
    rwa [isAtom, decide_eq_true_eq] at atom
  have joined (long : least < left.toText.length + right.toText.length) :
      (Node.string (left.toText ++ right.toText)).isAtom (least + 1) = true := by
    rw [isAtom, decide_eq_true_eq, String.length_append]
    exact long
  cases left with
  | string text =>
      have long := textual text leftAtom
      exact joined (by omega)
  | list | map | quote => cases leftAtom
  | _ =>
      cases right with
      | string text =>
          have long := textual text rightAtom
          exact joined (by omega)
      | list | map | quote => cases rightAtom
      | _ => rfl

theorem isAtom_zero_add (left right : Node) : (add left right).isAtom 0 = true := by
  rw [add]
  dsimp only
  split_ifs <;> simp [isAtom]

/-- Atoms add up to the empty text only where one of them is the empty text. -/
theorem eq_empty_of_add (leftAtom : left.isAtom least = true)
    (rightAtom : right.isAtom least = true) (sum : add left right = .string "") : left = .string "" ∨ right = .string "" := by
  have parts (joined : Node.string (left.toText ++ right.toText) = .string "") :
      left.toText = "" ∧ right.toText = "" :=
    String.append_eq_empty_iff.mp (Node.string.inj joined)
  cases left with
  | string text => exact .inl (congrArg Node.string (parts sum).1)
  | list | map | quote => cases leftAtom
  | _ =>
      cases right with
      | string text => exact .inr (congrArg Node.string (parts sum).2)
      | list | map | quote => cases rightAtom
      | _ => cases sum

end Node

/-- Whether a function of arithmetic may hand a text back: a conjunction and a disjunction yield one
of their arguments, and empty texts add up to the empty text. -/
def Function.handsBack (name text : String) : Bool :=
  name == "and" || name == "or" || name == "+" && text == ""

/-- A function that answers atoms with an atom, and with a text only where the text is an argument
that may be handed back. -/
def Function.Calculates (name : String) (function : Function) : Prop :=
  ∀ (text : String) (call : Call) (arguments : List Node) (world : World) (node : Node),
    (∀ argument ∈ arguments, argument.isAtom text.length = true) →
      ((function.call call arguments).run world).1 = .ok node →
        node.isAtom text.length = true ∧
          (node = .string text → handsBack name text = true ∧ .string text ∈ arguments)

def Binding.constant? : Binding → Option (String × Node)
  | .constant name value => some (name, value)
  | _ => none

namespace Table

/-- A constant is in a table already, or a binding puts it there. -/
theorem mem_constants_bind {table : Table} {binding : Binding} {entry : String × Node}
    (member : entry ∈ (table.bind binding).1.constants) :
    entry ∈ table.constants ∨ binding.constant? = some entry := by
  cases binding with
  | constant name value =>
      rw [bind] at member
      exact (Entries.mem_of_mem_insert member).symm.imp_right (congrArg some ·.symm)
  | aliasFunction aliasName name =>
      rw [bind] at member
      cases found : Entries.get? name table.functions with
      | none =>
          rw [found] at member
          exact .inl member
      | some function =>
          simp only [found, bindFunction, copyPrice] at member
          cases priced : Entries.get? name table.prices <;> rw [priced] at member <;>
            exact .inl member
  | aliasCaster aliasName name =>
      rw [bind] at member
      cases found : Entries.get? name table.casters <;> rw [found] at member <;> exact .inl member
  | _ => exact .inl member

theorem mem_constants_bindAll {table : Table} {bindings : List Binding} {entry : String × Node}
    (member : entry ∈ (table.bindAll bindings).1.constants) :
    entry ∈ table.constants ∨ entry ∈ bindings.filterMap Binding.constant? := by
  induction bindings generalizing table with
  | nil =>
      rw [bindAll] at member
      exact .inl member
  | cons binding later inductionHypothesis =>
      rw [bindAll] at member
      rcases inductionHypothesis member with before | after
      · rcases mem_constants_bind before with old | own
        · exact .inl old
        · exact .inr (List.mem_filterMap.mpr ⟨binding, .head later, own⟩)
      · obtain ⟨other, inside, own⟩ := List.mem_filterMap.mp after
        exact .inr (List.mem_filterMap.mpr ⟨other, .tail binding inside, own⟩)

theorem mem_of_constant? {table : Table} {name : String} {value : Node}
    (found : table.toLibrary.constant? name .global = some value) :
    (name, value) ∈ table.constants :=
  Entries.mem_of_get? found

end Table

namespace Standard

/-- A constant of the standard library is one that is bound there. -/
theorem mem_of_constant? {name : String} {value : Node}
    (found : library.constant? name .global = some value) :
    (name, value) ∈ bindings.filterMap Binding.constant? := by
  rw [library] at found
  have member := Table.mem_of_constant? found
  rw [table] at member
  exact (Table.mem_constants_bindAll member).resolve_left (List.not_mem_nil)

def arithmeticNames : List String :=
  arithmetic.filterMap Binding.functionName?

/-- A function under a name of arithmetic calculates. -/
abbrev Calculating (binding : Binding) : Prop :=
  binding.Respects fun name function => name ∈ arithmeticNames → function.Calculates name

theorem calculating_yields (name : String) (signature : Signature) {compute : List Node → Node}
    (answers : ∀ (text : String) (arguments : List Node),
      (∀ argument ∈ arguments, argument.isAtom text.length = true) →
        (compute arguments).isAtom text.length = true ∧
          (compute arguments = .string text →
            Function.handsBack name text = true ∧ .string text ∈ arguments)) :
    Calculating (yields name signature compute) := by
  intro _ text call arguments world node atoms answered
  cases answered
  exact answers text arguments atoms

theorem isAtom_argument {least : Nat} {arguments : List Node}
    (atoms : ∀ argument ∈ arguments, argument.isAtom least = true) (index : Nat) :
    (argument arguments index).isAtom least = true := by
  rw [argument]
  cases found : arguments[index]? with
  | none => rfl
  | some node => exact atoms node (List.mem_of_getElem? found)

theorem mem_of_argument {arguments : List Node} {index : Nat} {text : String}
    (same : argument arguments index = .string text) : .string text ∈ arguments := by
  rw [argument] at same
  cases found : arguments[index]? with
  | none =>
      rw [found] at same
      cases same
  | some node =>
      rw [found, Option.getD_some] at same
      exact same ▸ List.mem_of_getElem? found

theorem calculating_of_foreign {binding : Binding}
    (foreign : ∀ name, binding.functionName? = some name → name ∉ arithmeticNames) :
    Calculating binding := by
  cases binding with
  | function name function => exact fun member => absurd member (foreign name rfl)
  | aliasFunction aliasName name => exact fun _ _ member => absurd member (foreign aliasName rfl)
  | scope name function bindings => exact fun member => absurd member (foreign name rfl)
  | _ => trivial

theorem calculating_number (name : String) (signature : Signature)
    (compute : List Node → Float) :
    Calculating (yields name signature fun arguments => .number (compute arguments)) :=
  calculating_yields _ _ fun _ _ _ => ⟨rfl, nofun⟩

theorem calculating_bool (name : String) (signature : Signature) (compute : List Node → Bool) :
    Calculating (yields name signature fun arguments => .bool (compute arguments)) :=
  calculating_yields _ _ fun _ _ _ => ⟨rfl, nofun⟩

theorem calculating_sum : Calculating (joint "+" twoNumbers Node.add) := by
  refine calculating_yields _ _ fun text arguments atoms => ?_
  have left := isAtom_argument atoms 0
  have right := isAtom_argument atoms 1
  by_cases empty : text = ""
  · subst empty
    refine ⟨Node.isAtom_zero_add _ _, fun sum => ⟨rfl, ?_⟩⟩
    exact (Node.eq_empty_of_add left right sum).elim mem_of_argument mem_of_argument
  · have positive : 0 < text.length := by
      rwa [Nat.pos_iff_ne_zero, Ne, String.length_eq_zero_iff]
    have longer := Node.isAtom_add positive left right
    exact ⟨Node.isAtom_of_succ longer, fun same => absurd same (Node.ne_of_isAtom_succ longer)⟩

/-- A conjunction or a disjunction hands one of its arguments back. -/
theorem calculating_selection {name : String} (selects : name = "and" ∨ name = "or")
    (signature : Signature) {operation : Node → Node → Node}
    (either : ∀ left right, operation left right = left ∨ operation left right = right) :
    Calculating (joint name signature operation) := by
  have back (text : String) : Function.handsBack name text = true := by
    rcases selects with rfl | rfl <;> rfl
  refine calculating_yields _ _ fun text arguments atoms => ?_
  rcases either (argument arguments 0) (argument arguments 1) with first | second
  · rw [first]
    exact ⟨isAtom_argument atoms 0, fun same => ⟨back text, mem_of_argument same⟩⟩
  · rw [second]
    exact ⟨isAtom_argument atoms 1, fun same => ⟨back text, mem_of_argument same⟩⟩

theorem calculating_arithmetic : ∀ binding ∈ arithmetic, Calculating binding := by
  have sum := calculating_sum
  have equal : Calculating (.aliasFunction "==" "=") :=
    fun _ calculates _ => calculates (by decide +kernel)
  have draw : Calculating (acts "math.rand" .nothing fun _ _ => do
      pure (.number (← Action.random))) := by
    intro _ text call arguments world node _ answered
    cases answered
    exact ⟨rfl, nofun⟩
  have both : Calculating (joint "and" (.ofTags ["*", "*"])
      fun left right => if left.truthy then right else left) :=
    calculating_selection (.inl rfl) _ fun _ _ => by split_ifs <;> simp
  have either : Calculating (joint "or" (.ofTags ["*", "*"])
      fun left right => if left.truthy then left else right) :=
    calculating_selection (.inr rfl) _ fun _ _ => by split_ifs <;> simp
  simp only [joint] at sum both either
  simp only [arithmetic, operators, comparisons, connectives, functionsOfNumbers, joint, binary,
    unary, comparison, List.forall_mem_append, List.forall_mem_cons, calculating_number,
    calculating_bool, sum, equal, draw, both, either, and_self, List.not_mem_nil,
    false_implies, implies_true]

theorem calculating_of_mem {binding : Binding} (member : binding ∈ bindings) :
    Calculating binding := by
  have foreign : ∀ other ∈ constants ++ casters ++ closures ++ control ++ definitions ++ lists ++
      hashes ++ words ++ digests ++ clock ++ store,
      (other.functionName?.all fun name => name ∉ arithmeticNames) = true := by
    decide +kernel
  by_cases numeric : binding ∈ arithmetic
  · exact calculating_arithmetic binding numeric
  · refine calculating_of_foreign fun name named => ?_
    simp only [bindings, List.mem_append, numeric, or_false] at member
    have absent := foreign binding (by simpa only [List.mem_append] using member)
    rw [named] at absent
    simpa using absent

/-- The other name of equality is bound after equality itself, and not again. -/
theorem hasFunction_alias : table.hasFunction "==" = true := by
  let first := constants ++ casters ++ (operators ++ comparisons)
  let later := connectives ++ functionsOfNumbers ++ closures ++ control ++ definitions ++ lists ++
    hashes ++ words ++ digests ++ clock ++ store
  have parts : bindings = first ++ later := by
    simp only [bindings, arithmetic, first, later, List.append_assoc]
  have others : ∀ binding ∈ later, binding.functionName? ≠ some "==" := by
    decide +kernel
  have bound : (Table.empty.bindAll first).1.hasFunction "==" = true := by
    decide +kernel
  rw [table, parts, Table.bindAll_append, Table.hasFunction,
    Table.get?_bindAll_of_ne _ later "==" others]
  exact bound

theorem hasFunction_arithmetic {name : String} (member : name ∈ arithmeticNames) :
    table.hasFunction name = true := by
  have direct : ∀ binding ∈ arithmetic, (∃ name function, binding = .function name function) ∨
      binding = .aliasFunction "==" "=" := by
    simp [arithmetic, operators, comparisons, connectives, functionsOfNumbers, joint, binary, unary,
      comparison, yields, computes, acts]
  obtain ⟨binding, inside, named⟩ := List.mem_filterMap.mp member
  rcases direct binding inside with ⟨other, function, rfl⟩ | rfl
  · obtain rfl := Option.some.inj named
    have bound : .function other function ∈ bindings := by
      simp only [bindings, List.mem_append, inside, true_or, or_true]
    exact congrArg Option.isSome (get?_table bound)
  · obtain rfl := Option.some.inj named
    exact hasFunction_alias

/-- The names of arithmetic stand for functions that calculate. -/
theorem exists_calculates {name : String} (member : name ∈ arithmeticNames) :
    ∃ function, library.function? name .global = some function ∧ function.Calculates name := by
  obtain ⟨function, found⟩ := Option.isSome_iff_exists.mp (hasFunction_arithmetic member)
  have respects : table.Respects fun name function =>
      name ∈ arithmeticNames → function.Calculates name := by
    rw [table]
    refine Table.Respects.bindAll (fun _ => calculating_of_mem) fun name function found => ?_
    cases found
  rw [library]
  exact ⟨function, (Table.offers_of_get? plain_table.1 plain_table.2 found).bound,
    respects name function found member⟩

/-- What stands for an atom is an atom, because every constant is, and no constant is a text. -/
theorem isAtom_valueOf {text : String} {node : Node} (atom : node.isAtom text.length = true) :
    (library.valueOf .global node).isAtom text.length = true ∧
      (library.valueOf .global node = .string text → node = .string text) := by
  have plain : ∀ entry ∈ bindings.filterMap Binding.constant?,
      entry.2.string?.isNone = true ∧ entry.2.isAtom 0 = true := by
    decide +kernel
  cases node with
  | string name =>
      rw [Library.valueOf]
      cases found : library.constant? name .global with
      | none => exact ⟨atom, id⟩
      | some value =>
          obtain ⟨textless, constant⟩ := plain _ (mem_of_constant? found)
          rw [Option.isNone_iff_eq_none] at textless
          refine ⟨Node.isAtom_of_string?_none textless constant _, ?_⟩
          rintro rfl
          cases textless
  | _ => exact ⟨atom, id⟩

/-- A text that names no constant stands for itself. -/
theorem valueOf_string {text : String}
    (absent : ∀ entry ∈ bindings.filterMap Binding.constant?, entry.1 ≠ text) :
    library.valueOf .global (.string text) = .string text := by
  rw [Library.valueOf]
  cases found : library.constant? text .global with
  | none => rfl
  | some value => exact absurd rfl (absent _ (mem_of_constant? found))

/-- Beside a text, a calculation is an atom no shorter than it, or a call of arithmetic on
calculations that does not hand the text back. -/
inductive IsCalculation (text : String) : Node → Prop
  | atom {node : Node} (atom : node.isAtom text.length = true) : IsCalculation text node
  | call {operator : String} {arguments : List Node} (member : operator ∈ arithmeticNames)
      (kept : .string text ∈ arguments → Function.handsBack operator text = false)
      (each : ∀ argument ∈ arguments, IsCalculation text argument) :
      IsCalculation text (.list (.string operator :: arguments))

theorem IsCalculation.isAtom {text : String} {node : Node} (calculation : IsCalculation text node)
    (ready : node.isValue = true) : node.isAtom text.length = true := by
  cases calculation with
  | atom atom => exact atom
  | call => cases ready

/-- What a pass leaves of a node: a value stays, and anything else becomes a lighter calculation
other than a text. -/
structure Shrinks (text : String) (node reduced : Node) : Prop where
  stays : node.isValue = true → reduced = node
  calculation : node.isValue = false → IsCalculation text reduced
  lighter : node.isValue = false → reduced.weight < node.weight
  other : node.isValue = false → reduced ≠ .string text

variable {text : String} {items reduced : List Node}

/-- Items that shrink one by one are lighter together, unless they are all values. -/
theorem weights_of_shrinks (each : List.Forall₂ (Shrinks text) items reduced) :
    Node.weights reduced ≤ Node.weights items ∧
      ((∃ item ∈ items, item.isValue = false) → Node.weights reduced < Node.weights items) := by
  induction each with
  | nil => exact ⟨le_refl _, by simp⟩
  | @cons item node items nodes shrinks _ inductionHypothesis =>
      obtain ⟨lower, strictly⟩ := inductionHypothesis
      rw [Node.weights, Node.weights]
      cases ready : item.isValue with
      | true =>
          rw [shrinks.stays ready]
          refine ⟨by omega, ?_⟩
          rintro ⟨other, member, waiting⟩
          rcases List.mem_cons.mp member with rfl | inside
          · rw [ready] at waiting
            cases waiting
          · have less := strictly ⟨other, inside, waiting⟩
            omega
      | false =>
          have less := shrinks.lighter ready
          exact ⟨by omega, fun _ => by omega⟩

/-- What holds of calculations and of all items holds of what is left of the items. -/
theorem forall_mem_of_shrinks {property : Node → Prop}
    (calculations : ∀ node, IsCalculation text node → property node)
    (each : List.Forall₂ (Shrinks text) items reduced) (all : ∀ item ∈ items, property item) :
    ∀ node ∈ reduced, property node := by
  induction each with
  | nil => exact all
  | @cons item node items nodes shrinks _ inductionHypothesis =>
      rw [List.forall_mem_cons] at all ⊢
      refine ⟨?_, inductionHypothesis all.2⟩
      cases ready : item.isValue with
      | true => exact shrinks.stays ready ▸ all.1
      | false => exact calculations node (shrinks.calculation ready)

/-- Shrinking does not bring the text about. -/
theorem notMem_of_shrinks (each : List.Forall₂ (Shrinks text) items reduced)
    (absent : .string text ∉ items) : .string text ∉ reduced := by
  induction each with
  | nil => exact absent
  | @cons item node items nodes shrinks _ inductionHypothesis =>
      rw [List.mem_cons, not_or] at absent ⊢
      refine ⟨?_, inductionHypothesis absent.2⟩
      cases ready : item.isValue with
      | true => exact shrinks.stays ready ▸ absent.1
      | false => exact (shrinks.other ready).symm

end Standard

namespace Engine

open Reduction Standard

variable {engine : Engine} {inputs : Inputs} {text : String}

theorem shrinks_of_isValue {node : Node} (ready : node.isValue = true) {state after : State}
    {reduced : Node}
    (branched : (engine.branch inputs .global node).on state = (.ok reduced, after)) :
    Shrinks text node reduced := by
  obtain ⟨middle, -, stays⟩ := engine.branch_value inputs .global node ready state
  rw [stays] at branched
  cases branched
  have never (waiting : node.isValue = false) : False := by
    rw [ready] at waiting
    cases waiting
  exact ⟨fun _ => rfl, fun waiting => (never waiting).elim, fun waiting => (never waiting).elim,
    fun waiting => (never waiting).elim⟩

/-- Items shrink when each of them does. -/
theorem shrinks_of_results {items reduced : List Node} {state after : State}
    (each : ∀ item ∈ items, ∀ (state after : State) (node : Node),
      (engine.branch inputs .global item).on state = (.ok node, after) → Shrinks text item node)
    (results : engine.results inputs .global items state = (reduced.map .ok, after)) :
    List.Forall₂ (Shrinks text) items reduced := by
  induction items generalizing reduced state with
  | nil =>
      rw [results_nil] at results
      obtain rfl : reduced = [] := by simpa using (congrArg Prod.fst results).symm
      exact .nil
  | cons item rest inductionHypothesis =>
      rw [List.forall_mem_cons] at each
      obtain ⟨node, others, middle, rfl, first, later⟩ :=
        engine.results_cons_eq_ok inputs .global results
      exact .cons (each.1 state middle node first) (inductionHypothesis each.2 later)

section

variable (standard : engine.library = Standard.library)

include standard

theorem isAtom_arguments {name : String} {items : List Node}
    (atoms : ∀ item ∈ items, item.isAtom text.length = true) :
    (∀ argument ∈ engine.arguments .global (.string name :: items),
        argument.isAtom text.length = true) ∧
      (.string text ∈ engine.arguments .global (.string name :: items) →
        .string text ∈ items) := by
  rw [arguments, standard]
  refine ⟨List.forall_mem_map.mpr fun item member => ?_, fun among => ?_⟩
  · rw [Node.unquoted_of_isAtom (atoms item member)]
    exact (isAtom_valueOf (atoms item member)).1
  · obtain ⟨item, member, same⟩ := List.mem_map.mp among
    rw [Node.unquoted_of_isAtom (atoms item member)] at same
    exact (isAtom_valueOf (atoms item member)).2 same ▸ member

/-- A call of arithmetic on atoms shrinks to its answer. -/
theorem shrinks_of_ready {operator : String} {arguments : List Node}
    (member : operator ∈ arithmeticNames)
    (kept : .string text ∈ arguments → Function.handsBack operator text = false)
    (atoms : ∀ argument ∈ arguments, argument.isAtom text.length = true)
    {state after : State} {reduced : Node}
    (branched : (engine.branch inputs .global (.list (.string operator :: arguments))).on state =
      (.ok reduced, after)) :
    Shrinks text (.list (.string operator :: arguments)) reduced := by
  obtain ⟨function, found, calculates⟩ := exists_calculates member
  have values : ∀ argument ∈ arguments, argument.isValue = true :=
    fun argument inside => Node.isValue_of_isAtom (atoms argument inside)
  have shape : Node.shape (.string operator :: arguments) = .call operator :=
    Node.shape_call (offers_of_function? found).2 values
  rw [← standard] at found
  obtain ⟨call, world, answered⟩ := exists_answer found shape branched
  obtain ⟨given, among⟩ := isAtom_arguments standard atoms
  obtain ⟨atom, back⟩ := calculates text call _ world reduced given answered
  refine ⟨nofun, fun _ => .atom atom, fun _ => ?_, fun _ same => ?_⟩
  · have light := Node.weight_of_isValue (Node.isValue_of_isAtom atom)
    rw [Node.weight, Node.weights, Node.weight]
    omega
  · obtain ⟨hands, member⟩ := back same
    rw [kept (among member)] at hands
    cases hands

/-- A call that waits for an argument is left with its arguments shrunk. -/
theorem exists_shrunk {operator : String} {function : Function} {arguments : List Node}
    (found : engine.library.function? operator .global = some function)
    (waiting : ∃ argument ∈ arguments, argument.isValue = false)
    (each : ∀ argument ∈ arguments, ∀ (state after : State) (node : Node),
      (engine.branch inputs .global argument).on state = (.ok node, after) →
        Shrinks text argument node) {state after : State} {reduced : Node}
    (branched : (engine.branch inputs .global (.list (.string operator :: arguments))).on state =
      (.ok reduced, after)) :
    ∃ others, reduced = .list (.string operator :: others) ∧
      List.Forall₂ (Shrinks text) arguments others := by
  obtain ⟨offers, unquoted⟩ := offers_of_function? (standard ▸ found)
  obtain ⟨argument, member, unready⟩ := waiting
  rw [branch_list, Node.shape_sequence unquoted member unready] at branched
  obtain ⟨-, charged, -, reducing⟩ := on_bind_eq_ok branched
  rw [reduceList, innerScope_closed (standard ▸ offers.closed)] at reducing
  obtain ⟨nodes, results, rfl⟩ := engine.on_reduceItems_eq_ok inputs .global reducing
  obtain ⟨name, others, middle, rfl, first, later⟩ :=
    engine.results_cons_eq_ok inputs .global results
  rw [engine.branch_other inputs .global (.string operator) rfl] at first
  cases first
  exact ⟨others, rfl, shrinks_of_results each later⟩

/-- A pass that does not fail shrinks a calculation. -/
theorem shrinks_of_branch {node : Node} (calculation : IsCalculation text node) :
    ∀ (state after : State) (reduced : Node),
      (engine.branch inputs .global node).on state = (.ok reduced, after) →
        Shrinks text node reduced := by
  induction calculation with
  | @atom node atom =>
      intro state after reduced branched
      exact shrinks_of_isValue (Node.isValue_of_isAtom atom) branched
  | @call operator arguments member kept each inductionHypothesis =>
      intro state after reduced branched
      by_cases ready : ∀ argument ∈ arguments, argument.isValue = true
      · exact shrinks_of_ready standard member kept
          (fun argument inside => (each argument inside).isAtom (ready argument inside)) branched
      · have waiting : ∃ argument ∈ arguments, argument.isValue = false := by
          simpa using ready
        obtain ⟨function, found, -⟩ := exists_calculates member
        obtain ⟨others, rfl, shrunk⟩ :=
          exists_shrunk standard (standard ▸ found) waiting inductionHypothesis branched
        have stays (among : .string text ∈ others) :
            Function.handsBack operator text = false :=
          kept (by_contra fun absent => notMem_of_shrinks shrunk absent among)
        have calculations := forall_mem_of_shrinks (fun _ => id) shrunk each
        refine ⟨nofun, fun _ => .call member stays calculations, fun _ => ?_, fun _ => nofun⟩
        have less := (weights_of_shrinks shrunk).2 waiting
        rw [Node.weight, Node.weight, Node.weights, Node.weights]
        omega

/-- A round over values and calculations that does not fail goes around again with what is left of
them, as long as there is a calculation to reduce. -/
theorem exists_again (noArguments : inputs.argv = []) {head : String}
    {function : Function} {items : List Node}
    (found : engine.library.function? head .global = some function)
    (each : ∀ item ∈ items, item.isValue = true ∨ IsCalculation text item)
    (waiting : ∃ item ∈ items, item.isValue = false) {state after : State} {settled : Settled}
    (went : (engine.round inputs false (.list (.string head :: items))).on state =
      (.ok settled, after)) :
    ∃ others, List.Forall₂ (Shrinks text) items others ∧
      settled = .again (.list (.string head :: others.filter (!·.isNull))) := by
  obtain ⟨reduced, middle, passed, settles⟩ := on_bind_eq_ok went
  rw [on_pass_named engine noArguments] at passed
  have shrinks (item : Node) (member : item ∈ items) (state after : State) (node : Node)
      (branched : (engine.branch inputs .global item).on state = (.ok node, after)) :
      Shrinks text item node := by
    rcases each item member with ready | calculation
    · exact shrinks_of_isValue ready branched
    · exact shrinks_of_branch standard calculation state after node branched
  obtain ⟨others, rfl, shrunk⟩ := exists_shrunk standard found waiting shrinks passed
  have less := (weights_of_shrinks shrunk).2 waiting
  have lighter : (Node.list (.string head :: others)).weight <
      (Node.list (.string head :: items)).weight := by
    rw [Node.weight, Node.weight, Node.weights, Node.weights]
    omega
  rw [settle_lighter (List.cons_ne_nil _ _) lighter] at settles
  cases settles
  exact ⟨others, shrunk, rfl⟩

end

end Engine

end Reduct
