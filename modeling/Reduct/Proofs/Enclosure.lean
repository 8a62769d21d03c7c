import Reduct.Proofs.Mapping
/-! This file reduces a list inside of other lists that wait for it. A pass does to the innermost
list what it does to that list alone, and leaves the lists around it as they are. -/

namespace Reduct

/-- An enclosure is a list with one item left open: a name leads it, and the items around the open
one are no lists. -/
structure Enclosure where
  name : String
  before : List Node
  after : List Node
  unquoted : Node.isQuoteName name = false
  plainBefore : ∀ item ∈ before, item.isList = false
  plainAfter : ∀ item ∈ after, item.isList = false

theorem payable_cons (amount : Float) (rest : List Float) :
    Payable (amount :: rest) ↔ Payable [amount] ∧ Payable rest :=
  payable_append [amount] rest

/-- A form is a list that a name leads and that holds no null. -/
def Node.IsForm (node : Node) : Prop :=
  ∃ name rest, node = .list (.string name :: rest) ∧ ∀ item ∈ rest, item.isNull = false

theorem Node.IsForm.isNull {node : Node} (form : node.IsForm) : node.isNull = false := by
  obtain ⟨name, rest, rfl, -⟩ := form
  rfl

namespace Enclosure

variable (enclosure : Enclosure)

theorem unlisted_nil : ∀ item ∈ ([] : List Node), item.isList = false :=
  List.forall_mem_nil _

theorem unlisted_number (number : Float) : ∀ item ∈ [Node.number number], item.isList = false :=
  List.forall_mem_singleton.mpr rfl

/-- The items of the list with a node in the open place. -/
def items (inner : Node) : List Node :=
  .string enclosure.name :: (enclosure.before ++ inner :: enclosure.after)

/-- The list with a node in the open place. -/
def around (inner : Node) : Node :=
  .list (enclosure.items inner)

def size : Nat :=
  enclosure.before.length + enclosure.after.length + 2

/-- A node inside of enclosures, the innermost first. -/
def nest (enclosures : List Enclosure) (inner : Node) : Node :=
  enclosures.foldl (fun inner enclosure => enclosure.around inner) inner

@[simp] theorem nest_nil (inner : Node) : nest [] inner = inner := rfl

@[simp] theorem nest_cons (enclosures : List Enclosure) (inner : Node) :
    nest (enclosure :: enclosures) inner = nest enclosures (enclosure.around inner) := rfl

@[simp] theorem nest_concat (enclosures : List Enclosure) (inner : Node) :
    nest (enclosures ++ [enclosure]) inner = enclosure.around (nest enclosures inner) :=
  List.foldl_concat ..

theorem length_items (inner : Node) : (enclosure.items inner).length = enclosure.size := by
  simp only [items, size, List.length_cons, List.length_append]
  omega

theorem isValue_around (inner : Node) : (enclosure.around inner).isValue = false := rfl

theorem shape_items {inner : Node} (unready : inner.isValue = false) :
    Node.shape (enclosure.items inner) = .sequence :=
  Node.shape_sequence enclosure.unquoted (List.mem_append_right _ (.head _)) unready

/-- An enclosure without nulls. -/
def IsFull : Prop :=
  ∀ item ∈ enclosure.before ++ enclosure.after, item.isNull = false

theorem isForm_around {enclosure : Enclosure} (full : enclosure.IsFull) {inner : Node}
    (filled : inner.isNull = false) : (enclosure.around inner).IsForm := by
  obtain ⟨before, after⟩ := List.forall_mem_append.mp full
  exact ⟨enclosure.name, _, rfl, List.forall_mem_append.mpr
    ⟨before, List.forall_mem_cons.mpr ⟨filled, after⟩⟩⟩

/-- A form inside of enclosures without nulls makes a form. -/
theorem isForm_nest {enclosures : List Enclosure}
    (full : ∀ enclosure ∈ enclosures, enclosure.IsFull) {inner : Node} (form : inner.IsForm) :
    (nest enclosures inner).IsForm := by
  induction enclosures generalizing inner with
  | nil => exact form
  | cons enclosure rest inductionHypothesis =>
      rw [List.forall_mem_cons] at full
      exact inductionHypothesis full.2 (isForm_around full.1 form.isNull)

/-- A lighter node makes a lighter list. -/
theorem weight_around_lt {light heavy : Node} (lighter : light.weight < heavy.weight) :
    (enclosure.around light).weight < (enclosure.around heavy).weight := by
  simp only [around, items, Node.weight, Node.weights, Node.weights_append]
  omega

theorem weight_nest_lt {light heavy : Node} (lighter : light.weight < heavy.weight)
    (enclosures : List Enclosure) : (nest enclosures light).weight <
      (nest enclosures heavy).weight := by
  induction enclosures generalizing light heavy with
  | nil => exact lighter
  | cons enclosure rest inductionHypothesis =>
      exact inductionHypothesis (enclosure.weight_around_lt lighter)

end Enclosure

namespace Engine

open Deed Watched

variable {engine : Engine} {inputs : Inputs}

/-- An enclosure that opens no scope. -/
def Closes (engine : Engine) (enclosure : Enclosure) : Prop :=
  engine.library.opensScope enclosure.name .global = false

/-- Nodes that are no lists stay as they are, and nothing is done for them. -/
theorem watchItems_plain_append {plain rest : List Node} {results : List (Except Error Node)}
    {scope : Scope} {state after : State} {log : List Deed}
    (unlisted : ∀ item ∈ plain, item.isList = false)
    (reduced : engine.watchItems inputs scope rest state = ⟨.ok results, after, log⟩) :
    engine.watchItems inputs scope (plain ++ rest) state =
      ⟨.ok (plain.map .ok ++ results), after, log⟩ := by
  induction plain with
  | nil => exact reduced
  | cons item others inductionHypothesis =>
      rw [List.forall_mem_cons] at unlisted
      rw [List.cons_append, watchItems_cons,
        engine.watchBranch_other inputs scope item unlisted.1]
      dsimp only
      rw [inductionHypothesis unlisted.2]
      rfl

theorem watchItems_plain {plain : List Node} (unlisted : ∀ item ∈ plain, item.isList = false)
    (scope : Scope) (state : State) :
    engine.watchItems inputs scope plain state = ⟨.ok (plain.map .ok), state, []⟩ := by
  have appended := watchItems_plain_append unlisted (engine.watchItems_nil inputs scope state)
  rwa [List.append_nil, List.append_nil] at appended

/-- Only the item in the open place is reduced. -/
theorem watchItems_enclosed (enclosure : Enclosure) (inner : Node) (scope : Scope)
    (state : State) :
    engine.watchItems inputs scope (enclosure.items inner) state =
      let inside := engine.watchBranch inputs scope inner state
      ⟨.ok ((.string enclosure.name :: enclosure.before).map .ok ++
        inside.result :: enclosure.after.map .ok), inside.state, inside.log⟩ := by
  have plain : ∀ item ∈ Node.string enclosure.name :: enclosure.before, item.isList = false :=
    List.forall_mem_cons.mpr ⟨rfl, enclosure.plainBefore⟩
  refine watchItems_plain_append plain ?_
  rw [watchItems_cons]
  dsimp only
  rw [watchItems_plain enclosure.plainAfter, List.append_nil]
  rfl

/-- An error among results that are there is the error of them all. -/
theorem gather_enclosed (before after : List Node) (result : Except Error Node) :
    gather (before.map .ok ++ result :: after.map .ok) =
      result.map (before ++ · :: after) := by
  induction before with
  | nil =>
      cases result with
      | error error => rfl
      | ok node =>
          rw [List.map_nil, List.nil_append, gather_ok_cons, gather_map_ok]
          rfl
  | cons item rest inductionHypothesis =>
      rw [List.map_cons, List.cons_append, gather_ok_cons, inductionHypothesis]
      cases result <;> rfl

/-- A sequence that is paid for gathers the results of its items. -/
theorem watchBranch_sequence (inputs : Inputs) {items : List Node}
    (shape : Node.shape items = .sequence)
    (closed : engine.library.innerScope .global items = .global)
    (payable : Payable [engine.settings.sequenceAmount * Float.ofNat items.length])
    (state : State) :
    ∃ charges, invocations charges = [] ∧ ∀ results after log,
      engine.watchItems inputs .global items
          ((engine.entered .global items state).holding endless) = ⟨.ok results, after, log⟩ →
        engine.watchBranch inputs .global (.list items) (state.holding endless) =
          ⟨(gather results).map sequenceResult, after, charges ++ log⟩ := by
  have bill : Payable (engine.bill .global items.length .sequence) := payable
  obtain ⟨charges, charged, free⟩ :=
    chargeAll_payable bill items (engine.entered .global items state)
  refine ⟨charges, free, fun results after log reduced => ?_⟩
  rw [watchBranch_holding, shape, bind_ok charged, watchList, closed, watchSequence,
    bind_ok reduced]
  cases gather results <;> simp [Except.map, silent]

theorem innerScope_closed {name : String}
    (closed : engine.library.opensScope name .global = false) (rest : List Node) :
    engine.library.innerScope .global (.string name :: rest) = .global := by
  simp [Library.innerScope, Node.headName?, Node.string?, closed]

section

variable {enclosure : Enclosure} {inner : Node}

theorem innerScope_enclosed (closes : engine.Closes enclosure) (inner : Node) :
    engine.library.innerScope .global (enclosure.items inner) = .global :=
  innerScope_closed closes _

/-- A pass over an enclosed list is charged for the list around it, and does what it does to the
enclosed one. -/
theorem watchBranch_around (inputs : Inputs) (closes : engine.Closes enclosure)
    (unready : inner.isValue = false)
    (payable : Payable [engine.settings.sequenceAmount * Float.ofNat enclosure.size])
    (state : State) :
    ∃ charges, invocations charges = [] ∧
      engine.watchBranch inputs .global (enclosure.around inner) (state.holding endless) =
        let inside := engine.watchBranch inputs .global inner
          ((engine.entered .global (enclosure.items inner) state).holding endless)
        ⟨inside.result.map enclosure.around, inside.state, charges ++ inside.log⟩ := by
  rw [← enclosure.length_items inner] at payable
  obtain ⟨charges, free, reduces⟩ := watchBranch_sequence inputs (enclosure.shape_items unready)
    (innerScope_enclosed closes inner) payable state
  refine ⟨charges, free, ?_⟩
  rw [Enclosure.around, reduces _ _ _ (watchItems_enclosed enclosure inner .global _),
    gather_enclosed]
  dsimp only
  cases (engine.watchBranch inputs .global inner
    ((engine.entered .global (enclosure.items inner) state).holding endless)).result <;> rfl

theorem charges_around (closes : engine.Closes enclosure) (unready : inner.isValue = false) :
    engine.charges .global (enclosure.around inner) =
      engine.settings.sequenceAmount * Float.ofNat enclosure.size ::
        engine.charges .global inner := by
  have free (items : List Node) (plain : ∀ item ∈ items, item.isList = false) (rest : List Node) :
      engine.itemCharges .global (items ++ rest) = engine.itemCharges .global rest := by
    induction items with
    | nil => rfl
    | cons item others inductionHypothesis =>
        rw [List.forall_mem_cons] at plain
        rw [List.cons_append, itemCharges, engine.charges_other .global item plain.1,
          inductionHypothesis plain.2, List.nil_append]
  have last := free enclosure.after enclosure.plainAfter []
  rw [List.append_nil, itemCharges] at last
  rw [Enclosure.around, charges, enclosure.shape_items unready, enclosure.length_items,
    innerScope_enclosed closes, Enclosure.items, itemCharges,
    engine.charges_other .global (.string enclosure.name) rfl]
  simp only [bill, List.nil_append]
  rw [free enclosure.before enclosure.plainBefore, itemCharges, last, List.append_nil]
  rfl

/-- A list that is enclosed makes what it makes alone. -/
theorem Makes.around {reduced : Node} {made : List (String × List Node)}
    (closes : engine.Closes enclosure) (unready : inner.isValue = false)
    (makes : engine.Makes inputs inner reduced made) :
    engine.Makes inputs (enclosure.around inner) (enclosure.around reduced) made := by
  intro payable state
  rw [charges_around closes unready, payable_cons] at payable
  obtain ⟨charges, free, reduces⟩ :=
    watchBranch_around inputs closes unready payable.1 state
  obtain ⟨after, log, inside, invoked⟩ :=
    makes payable.2 (engine.entered .global (enclosure.items inner) state)
  refine ⟨after, charges ++ log, ?_, ?_⟩
  · rw [reduces, inside]
    rfl
  · rw [invocations_append, free, invoked, List.nil_append]

end

section

variable {enclosures : List Enclosure} {inner : Node}

/-- A list inside of enclosures makes what it makes alone. -/
theorem Makes.nest {reduced : Node} {made : List (String × List Node)}
    (closes : ∀ enclosure ∈ enclosures, engine.Closes enclosure)
    (unready : inner.isValue = false) (makes : engine.Makes inputs inner reduced made) :
    engine.Makes inputs (Enclosure.nest enclosures inner) (Enclosure.nest enclosures reduced)
      made := by
  induction enclosures generalizing inner reduced with
  | nil => exact makes
  | cons enclosure rest inductionHypothesis =>
      rw [List.forall_mem_cons] at closes
      exact inductionHypothesis closes.2 (enclosure.isValue_around inner)
        (makes.around closes.1 unready)

/-- Enclosures are charged by their sizes. -/
theorem payable_nest_iff (closes : ∀ enclosure ∈ enclosures, engine.Closes enclosure)
    (unready : inner.isValue = false) :
    Payable (engine.charges .global (Enclosure.nest enclosures inner)) ↔
      (∀ enclosure ∈ enclosures,
        Payable [engine.settings.sequenceAmount * Float.ofNat enclosure.size]) ∧
        Payable (engine.charges .global inner) := by
  induction enclosures generalizing inner with
  | nil => simp
  | cons enclosure rest inductionHypothesis =>
      rw [List.forall_mem_cons] at closes
      rw [Enclosure.nest_cons, inductionHypothesis closes.2 (enclosure.isValue_around inner),
        charges_around closes.1 unready, payable_cons, List.forall_mem_cons]
      tauto

end

/-- A filled list that has changed goes around again without its nulls. -/
theorem settle_changed {program : Node} {items : List Node} (filled : items ≠ [])
    (changed : (compacted items).sameStructure program = false) :
    engine.settle program (.list items) = pure (.again (compacted items)) := by
  obtain ⟨first, rest, rfl⟩ := List.exists_cons_of_ne_nil filled
  rw [settle_cons, changed, Bool.and_false]
  rfl

/-- A filled list of another weight has changed. -/
theorem settle_reweighed {program : Node} {items : List Node} (filled : items ≠ [])
    (changed : (compacted items).weight ≠ program.weight) :
    engine.settle program (.list items) = pure (.again (compacted items)) := by
  refine settle_changed filled ?_
  rw [← Bool.not_eq_true]
  exact fun same => changed (Node.weight_eq_of_sameStructure same)

/-- A filled list that is lighter than the program has changed, and its nulls make it no heavier. -/
theorem settle_lighter {program : Node} {items : List Node} (filled : items ≠ [])
    (lighter : (Node.list items).weight < program.weight) :
    engine.settle program (.list items) = pure (.again (compacted items)) :=
  settle_reweighed filled ((Node.lightened_compacted items).weight_le.trans_lt lighter).ne

/-- A list that another name leads has changed. -/
theorem settle_renamed {name other : String} (different : name ≠ other) (rest others : List Node) :
    engine.settle (.list (.string other :: others)) (.list (.string name :: rest)) =
      pure (.again (compacted (.string name :: rest))) := by
  have led : compacted (.string name :: rest) =
      .list (.string name :: rest.filter (!·.isNull)) := by
    rw [compacted, List.filter_cons_of_pos (by rfl)]
  refine settle_changed (by simp) ?_
  rw [led, Node.sameStructure, Node.agree, Node.agreeItems, Node.agree,
    beq_eq_false_iff_ne.mpr different, Bool.false_and]

/-- Nothing is lost from a list without nulls. -/
theorem compacted_of_full {items : List Node} (full : ∀ item ∈ items, item.isNull = false) :
    compacted items = .list items := by
  rw [compacted, List.filter_eq_self.mpr]
  intro item member
  rw [full item member]
  rfl

/-- A form of another weight goes around again. -/
theorem settle_form {program reduced : Node} (form : reduced.IsForm)
    (changed : reduced.weight ≠ program.weight) :
    engine.settle program reduced = pure (.again reduced) := by
  obtain ⟨name, rest, rfl, full⟩ := form
  have kept : compacted (.string name :: rest) = .list (.string name :: rest) :=
    compacted_of_full (List.forall_mem_cons.mpr ⟨rfl, full⟩)
  rw [settle_reweighed (by simp) (by rwa [kept]), kept]

/-- A form whose pass leaves another program takes one pass more than that program. -/
theorem Completes.step_form {program reduced next value : Node} {passes : Nat}
    {made later : List (String × List Node)} {amounts : List Float}
    (noArguments : inputs.argv = []) (form : program.IsForm)
    (makes : engine.Makes inputs program reduced made)
    (settles : engine.settle program reduced = pure (.again next))
    (completes : engine.Completes inputs next value passes later amounts) :
    engine.Completes inputs program value (passes + 1) (made ++ later)
      (engine.charges .global program ++ amounts) := by
  obtain ⟨name, rest, rfl, -⟩ := form
  exact .step noArguments makes settles completes

end Engine

end Reduct
