import Reduct.Proofs.ListFunctions
/-! This file follows the elements of a filter that are lists. An empty list is handed to the
predicate as it is, and any other list is reduced as a program before the predicate sees it. -/

namespace Reduct

open Deed

/-- What the first part of a reduction invokes is invoked by the whole. -/
theorem Watched.mem_invocations_bind {α β : Type} {watched : Watched α} {next : α → Watched β}
    {state : State} {invocation : String × List Node}
    (made : invocation ∈ invocations (watched state).log) :
    invocation ∈ invocations ((watched >>= next) state).log := by
  rcases outcome : watched state with ⟨error | value, middle, log⟩
  all_goals rw [outcome] at made
  · rw [bind_error outcome]
    exact made
  · rw [bind_ok outcome, invocations_append]
    exact List.mem_append_left _ made

namespace Engine

open Reduction Watched Standard

/-- An endless balance that pays the charges of a node invokes a function or a caster for it,
whether or not the node is reduced. -/
def Invokes (engine : Engine) (inputs : Inputs) (node : Node) (invocation : String × List Node) :
    Prop :=
  Payable (engine.charges .global node) → ∀ state : State,
    invocation ∈ invocations (engine.watchBranch inputs .global node (state.holding endless)).log

namespace Invokes

variable {engine : Engine} {inputs : Inputs} {invocation : String × List Node}

/-- A list invokes what it invokes once its bill is paid. -/
theorem of_watchList {items : List Node}
    (paid : Payable (engine.charges .global (.list items)) → ∀ (id : Nat) (state : State),
      invocation ∈ invocations (engine.watchList inputs .global id items (Node.shape items)
        (state.holding endless)).log) :
    engine.Invokes inputs (.list items) invocation := by
  intro payable state
  have invoked := paid payable (state.counter + 1) (engine.entered .global items state)
  rw [charges, payable_append] at payable
  obtain ⟨charges, charged, -⟩ :=
    chargeAll_payable payable.1 items (engine.entered .global items state)
  rw [watchBranch_holding, bind_ok charged, invocations_append]
  exact List.mem_append_right _ invoked

/-- A call that is ready invokes its function, whatever comes of it. -/
theorem call {name : String} {items : List Node} {function : Function}
    (shape : Node.shape items = .call name)
    (admits : engine.Admits name function (engine.arguments .global items).length) :
    engine.Invokes inputs (.list items) (name, engine.arguments .global items) := by
  refine of_watchList fun _ id state => ?_
  obtain ⟨call, middle, rfl, -, -, -, called⟩ :=
    admits.watchCall inputs id (state.holding endless)
  rw [shape, watchList, called]
  exact .head _

/-- Items that can be paid invoke what each of them invokes. -/
theorem items {nodes : List Node} {node : Node} (member : node ∈ nodes)
    (invokes : engine.Invokes inputs node invocation)
    (payable : Payable (engine.itemCharges .global nodes)) (state : State) :
    invocation ∈
      invocations (engine.watchItems inputs .global nodes (state.holding endless)).log := by
  induction nodes generalizing state with
  | nil => cases member
  | cons first rest inductionHypothesis =>
      rw [itemCharges, payable_append] at payable
      rw [watchItems_cons, invocations_append]
      rcases List.mem_cons.mp member with rfl | inside
      · exact List.mem_append_left _ (invokes payable.1 state)
      · obtain ⟨result, after, log, reduced, -⟩ :=
          engine.counts_watchBranch inputs first .global payable.1 state
        rw [reduced]
        exact List.mem_append_right _ (inductionHypothesis inside payable.2 after)

/-- A sequence that opens no scope invokes what each of its items invokes. -/
theorem sequence {nodes : List Node} {node : Node} (shape : Node.shape nodes = .sequence)
    (closed : engine.library.innerScope .global nodes = .global) (member : node ∈ nodes)
    (invokes : engine.Invokes inputs node invocation) :
    engine.Invokes inputs (.list nodes) invocation := by
  refine of_watchList fun payable id state => ?_
  rw [charges, shape, closed, payable_append] at payable
  rw [shape, watchList, closed, watchSequence]
  exact mem_invocations_bind (items member invokes payable.2 state)

end Invokes

variable {engine : Engine} {inputs : Inputs}

section

variable {closure : String} {element : Node} (extended : engine.library.ExtendsStandard)
  (filled : element.isValue = false)

include extended filled

/-- The call of a closure with a filled list is a sequence. -/
theorem shape_callOf_filled :
    Node.shape [.string "call", .quotedList [.string closure], element] = .sequence ∧
      engine.library.innerScope .global
        [.string "call", .quotedList [.string closure], element] = .global := by
  have offers := offers_of_mem extended mem_bindings_call
  constructor
  · exact Node.shape_sequence (by decide) (.tail _ (.head _)) filled
  · simp [Library.innerScope, Node.headName?, Node.string?, offers.closed]

/-- The call of a closure with a filled list reduces that list first. -/
theorem invokes_callOf {invocation : String × List Node}
    (invokes : engine.Invokes inputs element invocation) :
    engine.Invokes inputs (callOf [.string closure] [element]) invocation := by
  obtain ⟨shape, closed⟩ := shape_callOf_filled extended filled
  exact .sequence shape closed (.tail _ (.tail _ (.head _))) invokes

theorem charges_callOf_filled :
    engine.charges .global (callOf [.string closure] [element]) =
      engine.settings.sequenceAmount * Float.ofNat 3 :: engine.charges .global element := by
  obtain ⟨shape, closed⟩ := shape_callOf_filled extended filled
  rw [callOf, charges, shape, closed]
  simp [bill, itemCharges, engine.charges_other .global (.string "call") rfl,
    engine.charges_other .global (.quotedList [.string closure]) rfl]

end

/-- Calls that wait under a finalizer reduce the filled lists among their elements. -/
theorem invokes_awaiting {name closure : String} {combine : List Node → List Node → Node}
    {elements : List Node} {element : Node} {invocation : String × List Node}
    (extended : engine.library.ExtendsStandard) (mapper : IsMapper name combine)
    (member : element ∈ elements) (filled : element.isValue = false)
    (invokes : engine.Invokes inputs element invocation) :
    engine.Invokes inputs (awaiting name elements
      (elements.map fun element => callOf [.string closure] [element])) invocation := by
  have unready : ∀ element ∈ elements,
      (callOf [.string closure] [element]).isValue = false := fun _ _ => rfl
  obtain ⟨shape, closed⟩ := shape_awaiting extended mapper (List.ne_nil_of_mem member) unready
  have nested : callOf [.string closure] [element] ∈
      elements.map fun element => callOf [.string closure] [element] := List.mem_map_of_mem member
  exact .sequence shape closed (.tail _ (List.mem_append_left _ nested))
    (invokes_callOf extended filled invokes)

/-- Every pass after the first one invokes what the program before it invokes. -/
theorem Makes.mem_invocations_rounds {name nextName : String} {rest nextRest : List Node}
    {reduced : Node} {made : List (String × List Node)} {invocation : String × List Node}
    (noArguments : inputs.argv = [])
    (makes : engine.Makes inputs (.list (.string name :: rest)) reduced made)
    (settles : engine.settle (.list (.string name :: rest)) reduced =
      pure (.again (.list (.string nextName :: nextRest))))
    (payable : Payable (engine.charges .global (.list (.string name :: rest))))
    (nextPayable : Payable (engine.charges .global (.list (.string nextName :: nextRest))))
    (invokes : engine.Invokes inputs (.list (.string nextName :: nextRest)) invocation)
    (limit : Nat) (first : Bool) (state : State) :
    invocation ∈ invocations (engine.watchRounds inputs (limit + 2) first
      (.list (.string name :: rest)) (state.holding endless)).log := by
  obtain ⟨after, log, went, -⟩ := makes.round noArguments settles payable first state
  have invoked := invokes nextPayable after
  rw [← engine.watchPass_named noArguments false] at invoked
  rw [watchRounds, bind_ok went, invocations_append]
  refine List.mem_append_right _ ?_
  dsimp only
  rw [watchRounds]
  exact mem_invocations_bind (mem_invocations_bind invoked)

end Engine

namespace Session

open Standard

variable (session : Session) (inputs : Inputs)

def invocations (limit : Nat) (program : Node) : List (String × List Node) :=
  Deed.invocations (session.engine.watchRun inputs limit program session.state).log

/-- Results that are all true select every element. -/
theorem select_all (elements : List Node) :
    select true elements (elements.map fun _ => .bool true) = elements := by
  induction elements with
  | nil => rfl
  | cons element rest inductionHypothesis => exact congrArg (element :: ·) inductionHypothesis

/-- A mapping whose first two passes are paid reduces the filled lists among its elements. -/
theorem mem_invocations_mapping {name closure : String} {combine : List Node → List Node → Node}
    {elements : List Node} {element : Node} {invocation : String × List Node}
    (noArguments : inputs.argv = []) (extended : session.engine.library.ExtendsStandard)
    (mapper : IsMapper name combine) (payable : Payable [session.engine.settings.invokeAmount])
    (calling : Payable (session.engine.charges .global (awaiting name elements
      (elements.map fun element => callOf [.string closure] [element]))))
    (member : element ∈ elements) (filled : element.isValue = false)
    (invokes : session.engine.Invokes inputs element invocation) {limit : Nat}
    (enough : 2 ≤ limit) :
    invocation ∈
      (session.withBalance none).invocations inputs limit (mapping name elements closure) := by
  obtain ⟨limit, rfl⟩ := Nat.exists_eq_add_of_le' enough
  have first : Payable (session.engine.charges .global (mapping name elements closure)) := by
    rwa [Engine.charges_mapping extended mapper]
  have invoked := (Engine.makes_mapping extended mapper closure).mem_invocations_rounds noArguments
    (Engine.settle_mapping name closure elements) first calling
    (Engine.invokes_awaiting extended mapper member filled invokes) limit true
    (session.engine.opened (mapping name elements closure) session.state)
  rw [← opened_unlimited] at invoked
  exact invoked

/-- A predicate that is always true keeps the elements of a filter. Empty lists among them are
data: the predicate is called once for each element, and nothing else is called for it. Any other
list is a program: what its reduction invokes is invoked by the run. -/
theorem filter_reduces_filled_lists (predicate : String) (elements : List Node)
    (noArguments : inputs.argv = []) (extended : session.engine.library.ExtendsStandard)
    (kinds : ∀ element ∈ elements, (∃ number, element = .number number) ∨ element.isList = true)
    (applies : ∀ element ∈ elements, session.engine.Applies predicate [element] (.bool true))
    (payable : Payable (session.engine.mappingAmounts predicate elements.length)) :
    ((∀ element ∈ elements, element.isList = true → element = .list []) →
      ∀ limit, 4 ≤ limit →
        ((session.withBalance none).run inputs limit
            (mapping "list.filter" elements predicate)).1 = .ok (some (.list elements)) ∧
          (session.withBalance none).invocations inputs limit
              (mapping "list.filter" elements predicate) =
            ("list.filter", [.list elements, .list [.string predicate]]) ::
              (elements.map (fun element => ("call", [.list [.string predicate], element])) ++
                (elements.map (fun element => (predicate, [element])) ++
                  [(finalizerName "list.filter",
                    elements.map (fun _ => .bool true) ++ [.list elements])]))) ∧
    (Payable (session.engine.charges .global (awaiting "list.filter" elements
        (elements.map fun element => callOf [.string predicate] [element]))) →
      ∀ element ∈ elements, element.isValue = false →
        ∀ invocation, session.engine.Invokes inputs element invocation →
          ∀ limit, 2 ≤ limit → invocation ∈ (session.withBalance none).invocations inputs limit
            (mapping "list.filter" elements predicate)) := by
  have mapper := isMapper_listMappers.2.1
  constructor
  · intro empty limit enough
    have maps : session.engine.Maps predicate elements fun _ => .bool true := by
      refine ⟨fun element member => ?_, applies, fun _ _ => .inl rfl⟩
      rcases kinds element member with ⟨number, rfl⟩ | list
      · rfl
      · rw [empty element member list]
        rfl
    have kept := Engine.filter_calls elements (fun _ => .bool true) fun _ => rfl
    have answers (program : Node) : session.engine.settle program (.quotedList (select true elements
        ((elements.map fun _ => .bool true).filter (!·.isNull)))) =
          pure (.done (.list elements)) := by
      rw [kept, select_all]
      rfl
    have completes := Engine.completes_mapping noArguments extended mapper maps answers
    rw [kept] at completes
    obtain ⟨returned, invoked⟩ := run_completes completes payable limit
    have few : (if elements.isEmpty then 2 else 4) ≤ limit := by split <;> omega
    refine ⟨?_, invoked few⟩
    rw [returned, if_neg (by omega)]
  · intro calling element member filled invocation invokes limit enough
    have once : Payable [session.engine.settings.invokeAmount] := fun amount charged =>
      payable amount (List.mem_singleton.mp charged ▸ .head _)
    exact session.mem_invocations_mapping inputs noArguments extended mapper once calling member
      filled invokes enough

/-- A predicate that is always true, under the name `p`. -/
def acceptingBindings : List Binding :=
  [.function "p" ⟨none, false, fun _ _ => pure (.bool true)⟩]

def accepting : Session :=
  .start (table.bindAll acceptingBindings).1.toLibrary {} .empty 0 0

theorem extendsStandard_accepting : accepting.engine.library.ExtendsStandard := by
  refine ⟨acceptingBindings, fun binding member => hasFunction_table ?_, rfl⟩
  revert binding
  decide +kernel

theorem offers_accepting : accepting.engine.library.Offers "p"
    ⟨none, false, fun _ _ => pure (.bool true)⟩ :=
  offers_added (by decide) (by decide) (.head _)

theorem applies_accepting (element : Node) :
    accepting.engine.Applies "p" [element] (.bool true) :=
  Engine.applies_of_offers offers_accepting (by decide) rfl rfl fun _ _ => rfl

/-- An empty list and a number are kept, and the predicate is called once for each. -/
theorem filter_keeps_empty_list :
    ((accepting.withBalance none).run ⟨[], none⟩ 4
        (mapping "list.filter" [.list [], .number 3.0] "p")).1 =
      .ok (some (.list [.list [], .number 3.0])) ∧
    (accepting.withBalance none).invocations ⟨[], none⟩ 4
        (mapping "list.filter" [.list [], .number 3.0] "p") =
      [ ("list.filter", [.list [.list [], .number 3.0], .list [.string "p"]]),
        ("call", [.list [.string "p"], .list []]),
        ("call", [.list [.string "p"], .number 3.0]),
        ("p", [.list []]),
        ("p", [.number 3.0]),
        ("_list.filter-finalize",
          [.bool true, .bool true, .list [.list [], .number 3.0]]) ] := by
  have payable : Payable (accepting.engine.mappingAmounts "p" 2) := by
    rw [Engine.mappingAmounts, Engine.priceCharges_offered offers_accepting]
    unfold Payable
    decide +kernel
  have law := filter_reduces_filled_lists accepting ⟨[], none⟩ "p" [.list [], .number 3.0] rfl
    extendsStandard_accepting (by simp [Node.isList]) (fun element _ => applies_accepting element)
    payable
  exact law.1 (by simp [Node.isList]) 4 (le_refl 4)

/-- A list of data that reads as the call of a function. -/
def thrower : Node :=
  .list [.string "error.throw", .number 7.0]

theorem mem_bindings_throw :
    (computes "error.throw" (.ofTags ["string"]) fun arguments =>
      .error (.thrown (argument arguments 0).toText)) ∈ bindings := by
  simp only [bindings, Standard.control, List.mem_append, List.mem_cons, true_or, or_true]

theorem shape_thrower : Node.shape [.string "error.throw", .number 7.0] = .call "error.throw" := by
  refine Node.shape_call (by decide) ?_
  simp [Node.isValue]

/-- The filter calls the function that a list of data names. -/
theorem filter_calls_thrower :
    ("error.throw", [.number 7.0]) ∈ (accepting.withBalance none).invocations ⟨[], none⟩ 4
      (mapping "list.filter" [thrower, .number 3.0] "p") := by
  have mapper := isMapper_listMappers.2.1
  have offers := offers_of_mem extendsStandard_accepting mem_bindings_throw
  have invokes : accepting.engine.Invokes ⟨[], none⟩ thrower ("error.throw", [.number 7.0]) :=
    .call shape_thrower ⟨by decide, offers.bound, nofun, fun _ => rfl⟩
  have once : Payable [accepting.engine.settings.invokeAmount] := by
    unfold Payable
    decide +kernel
  have calling : Payable (accepting.engine.charges .global (awaiting "list.filter"
      [thrower, .number 3.0]
      ([thrower, .number 3.0].map fun element => callOf [.string "p"] [element]))) := by
    rw [Engine.payable_awaiting_iff extendsStandard_accepting mapper (by simp) fun _ _ => rfl]
    refine ⟨by unfold Payable; decide +kernel, ?_⟩
    rw [List.forall_mem_cons, List.forall_mem_singleton,
      Engine.charges_callOf_filled extendsStandard_accepting rfl,
      Engine.charges_callOf extendsStandard_accepting rfl, thrower,
      Engine.charges_call shape_thrower, Engine.priceCharges_offered offers]
    refine ⟨?_, once⟩
    unfold Payable
    decide +kernel
  exact accepting.mem_invocations_mapping ⟨[], none⟩ rfl extendsStandard_accepting mapper once
    calling (.head _) rfl invokes (by decide)

end Session

end Reduct
