import Reduct.Proofs.ListElements
import Reduct.Proofs.Steps
import Reduct.Proofs.Substitution
import Reduct.Proofs.Visits
/-! This file follows the payload of an event into the reaction to the event. The payload stands
there without a quote: the empty list is data, and any other list is reduced as a program. -/

namespace Reduct

open Deed

namespace Standard

/-- The reaction to any event that makes a list of its payload. -/
def enlistingItems : List Node :=
  [.string "event", .string Event.wildcard, .string "p",
    .quotedList [.string "list", .string "p"]]

/-- The call of the reaction. -/
def reacting : String × List Node :=
  ("event", [.string Event.wildcard, .string "p", .list [.string "list", .string "p"]])

/-- The list of one payload, which is still to be made. -/
def enlisted (payload : Node) : Node :=
  .list [.string "list", payload]

theorem enlisted_eq (payload : Node) : enlisted payload = .list [.string "list", payload] := rfl

theorem mem_bindings_event :
    (acts "event" (.ofTags ["string", "string", "list"]) fun call arguments =>
      Action.lift (react call.event arguments)) ∈ bindings := by
  simp only [bindings, control, List.mem_append, List.mem_cons, true_or, or_true]

/-- The names of the casters. -/
theorem casterNames : bindings.filterMap Binding.casterName? =
    ["number", "string", "bool", "null", "list", "hash", "#", "entity"] := rfl

/-- A list is made by a caster. -/
theorem caster?_list :
    library.caster? "list" .global = some fun arguments => .ok (.quotedList arguments) := by
  have distinct : (bindings.filterMap Binding.casterName?).Nodup := by
    rw [casterNames]
    decide
  have member : casts "list" Node.quotedList ∈ bindings := by
    simp only [bindings, casters, List.mem_append, List.mem_cons, true_or, or_true]
  rw [library, Table.caster?_global, table]
  exact Table.get?_casters_bindAll_of_mem .empty distinct member

/-- Neither lists nor the fallback of the default settings have a function. -/
theorem function?_none {name : String} (member : name ∈ ["list", ({} : Settings).fallback]) :
    library.function? name .global = none := by
  have absent : ∀ name ∈ ["list", ({} : Settings).fallback],
      name ∉ bindings.filterMap Binding.functionName? := by
    decide +kernel
  have missing := hasFunction_table (absent name member)
  rw [library]
  cases found : table.toLibrary.function? name .global with
  | none => rfl
  | some function =>
      rw [Table.hasFunction_of_function? found] at missing
      cases missing

/-- The names of the constants. -/
theorem constantNames : (bindings.filterMap Binding.constant?).map Prod.fst =
    ["true", "false", "null", "PHI", "PI", "E", "TAU", "LN2", "LN10", "LOG2E", "LOG10E",
      "SQRT2"] := rfl

/-- The texts of the reaction name no constants. -/
theorem valueOf_enlisting {text : String} (member : text ∈ [Event.wildcard, "p"]) :
    library.valueOf .global (.string text) = .string text := by
  have absent : ∀ text ∈ [Event.wildcard, "p"],
      text ∉ (bindings.filterMap Binding.constant?).map Prod.fst := by
    rw [constantNames]
    decide
  refine valueOf_string fun entry inside same => absent text member ?_
  exact List.mem_map.mpr ⟨entry, inside, same⟩

theorem opensScope_library (name : String) : library.opensScope name .global = false := by
  have closed (table : Table) (closed : table.scopes = []) :
      table.toLibrary.opensScope name .global = false := by
    change (Entries.get? name table.scopes).isSome = false
    rw [closed]
    rfl
  rw [library]
  exact closed table plain_table.2

theorem shape_enlistingItems : Node.shape enlistingItems = .call "event" :=
  Node.shape_call (by decide) (by simp [Node.quotedList, Node.isValue])

theorem shape_enlisted_datum {item : Node} (datum : item.isDatum = true) :
    Node.shape [.string "list", item] = .call "list" :=
  Node.shape_call (by decide) (List.forall_mem_singleton.mpr (Node.isValue_of_isDatum datum))

theorem shape_enlisted_filled {payload : List Node} (filled : payload ≠ []) :
    Node.shape [.string "list", .list payload] = .sequence := by
  refine Node.shape_sequence (by decide) (.head _) ?_
  simpa [Node.isValue] using filled

/-- A payload with items is counted beside the list that is made of it. -/
theorem steps_enlisted {payload : List Node} (filled : payload ≠ []) :
    2 ≤ (enlisted (.list payload)).steps := by
  have unready := (Node.shape_eq_sequence_iff _).mp (shape_enlisted_filled filled)
  have counted : 1 ≤ (Node.list payload).steps := by
    rw [Node.steps]
    split_ifs <;> omega
  rw [enlisted_eq, Node.steps, unready, if_neg Bool.false_ne_true, Node.itemSteps, Node.itemSteps]
  omega

end Standard

namespace Reduction

variable {α β : Type}

/-- A reduction that never takes a step back. -/
def Advances (reduction : Reduction α) : Prop :=
  ∀ state : State, state.counter ≤ (reduction.on state).2.counter

namespace Advances

theorem of_keepsCounter {reduction : Reduction α} (kept : reduction.KeepsCounter) :
    reduction.Advances :=
  fun state => (kept state).ge

theorem bind {reduction : Reduction α} {next : α → Reduction β} (first : reduction.Advances)
    (second : ∀ value, (next value).Advances) : (reduction >>= next).Advances := by
  intro state
  have before := first state
  rw [on_bind]
  rcases outcome : reduction.on state with ⟨error | value, after⟩
  all_goals rw [outcome] at before
  · exact before
  · exact before.trans (second value after)

end Advances

end Reduction

namespace Engine

open Reduction Watched Standard

section

variable (engine : Engine) (inputs : Inputs)

theorem advances_pass (scope : Scope) (appendArgv : Bool) (program : Node) :
    (engine.pass inputs scope appendArgv program).Advances := by
  rw [pass]
  by_cases null : program.isNull = true
  · rw [if_pos null]
    exact .of_keepsCounter fun _ => rfl
  · rw [if_neg null]
    cases program.denest with
    | list items =>
        refine .bind (.of_keepsCounter (engine.keepsCounter_preprocess inputs items)) ?_
        intro expanded state
        -- Each list that a branch enters is one step.
        obtain ⟨entered, -, counted, -⟩ := engine.follows_branch inputs
          (joined inputs appendArgv expanded) scope state []
        exact (Nat.le_add_right _ _).trans counted.ge
    | _ => exact .of_keepsCounter (.pure _)

theorem keepsCounter_settle (program reduced : Node) :
    (engine.settle program reduced).KeepsCounter := by
  unfold settle
  split
  · exact .pure _
  · dsimp only
    split_ifs
    · exact .bind (.note _) fun _ => .pure _
    · exact .pure _
  · exact .pure _

/-- What is left after a pass takes no step back when later rounds take none. -/
theorem advances_settled {limit : Nat}
    (later : ∀ next, (engine.rounds inputs limit false next).Advances) (program reduced : Node) :
    (engine.settle program reduced >>= engine.goOn inputs limit).Advances := by
  refine .bind (.of_keepsCounter (engine.keepsCounter_settle program reduced)) fun settled => ?_
  cases settled with
  | done value => exact .of_keepsCounter (.pure (some value))
  | again next => exact later next

theorem advances_rounds (limit : Nat) (first : Bool) (program : Node) :
    (engine.rounds inputs limit first program).Advances := by
  induction limit generalizing first program with
  | zero => exact .of_keepsCounter (.pure none)
  | succ limit inductionHypothesis =>
      rw [rounds_succ, round, bind_assoc]
      exact .bind (engine.advances_pass inputs .global first program)
        (engine.advances_settled inputs (inductionHypothesis false) program)

end

variable {engine : Engine} {inputs : Inputs}

/-- Rounds over a payable program that a name leads take at least its steps. -/
theorem steps_le_rounds {name : String} {rest : List Node} (noArguments : inputs.argv = [])
    (payable : Payable (engine.charges .global (.list (.string name :: rest)))) (limit : Nat)
    (first : Bool) (state : State) :
    state.counter + (Node.list (.string name :: rest)).steps ≤
      ((engine.rounds inputs (limit + 1) first (.list (.string name :: rest))).on
        (state.holding endless)).2.counter := by
  obtain ⟨result, after, log, ran, counted, -⟩ :=
    engine.counts_watchBranch inputs (.list (.string name :: rest)) .global payable state
  have passed : (engine.pass inputs .global first (.list (.string name :: rest))).on
      (state.holding endless) = (result, after.holding endless) := by
    rw [engine.on_pass_named noArguments, ← unwatched_watchBranch, on_unwatched, ran]
  rw [rounds_succ, round, bind_assoc, on_bind, passed, ← counted]
  cases result with
  | error error => exact le_refl after.counter
  | ok reduced =>
      exact engine.advances_settled inputs (engine.advances_rounds inputs limit false) _ reduced
        (after.holding endless)

/-- A list that one function or caster answers, whatever the state: nothing is left of it but the
step and the deed. -/
def Answers (engine : Engine) (inputs : Inputs) (items : List Node) (result : Node)
    (invocation : String × List Node) : Prop :=
  ∀ (id : Nat) (state : State), ∃ deed : Deed, deed.invocation? = some invocation ∧
    engine.watchList inputs .global id items (Node.shape items) state = ⟨.ok result, state, [deed]⟩

namespace Answers

variable {name : String} {items : List Node} {result : Node}

/-- A pure function answers when its result depends on the event of its call alone. -/
theorem call {function : Function} (shape : Node.shape items = .call name)
    (bound : engine.library.function? name .global = some function)
    (calm : function.impure = false)
    (arity : Signature.check function.signature (engine.arguments .global items).length = .ok ())
    (yields : ∀ (call : Call) (world : World), call.event = inputs.event →
      (function.call call (engine.arguments .global items)).run world = (.ok result, world)) :
    engine.Answers inputs items result (name, engine.arguments .global items) := by
  intro id state
  let call : Call := ⟨id, engine.seed, name, items, inputs.argv, inputs.event, .global⟩
  refine ⟨⟨state.world, .call call (engine.arguments .global items)⟩, rfl, ?_⟩
  simp only [shape, watchList, watchCall, resolve?, bound, checkArity_of_bound bound fun _ => arity,
    checkPurity_of_calm bound calm]
  rw [silent_bind (on_pure () _), silent_bind (on_pure () _), doing, on_perform, yields _ _ rfl]
  rfl

/-- A caster answers when its name has no function. -/
theorem cast {caster : Caster} (shape : Node.shape items = .call name)
    (unresolved : engine.resolve? .global name = none)
    (bound : engine.library.caster? name .global = some caster)
    (casts : caster (engine.arguments .global items) = .ok result) :
    engine.Answers inputs items result (name, engine.arguments .global items) := by
  intro id state
  refine ⟨⟨state.world, .cast name .global (engine.arguments .global items)⟩, rfl, ?_⟩
  simp only [shape, watchList, watchCall, unresolved, bound, casts]
  rfl

variable {invocation : String × List Node}

theorem watchBranch (answers : engine.Answers inputs items result invocation)
    (payable : Payable (engine.charges .global (.list items))) (state : State) :
    ∃ log, engine.watchBranch inputs .global (.list items) (state.holding endless) =
        ⟨.ok result, (engine.entered .global items state).holding endless, log⟩ ∧
      invocations log = [invocation] := by
  rw [charges, payable_append] at payable
  obtain ⟨charges, charged, free⟩ :=
    chargeAll_payable payable.1 items (engine.entered .global items state)
  obtain ⟨deed, invoked, answered⟩ :=
    answers (state.counter + 1) ((engine.entered .global items state).holding endless)
  rw [watchBranch_holding, bind_ok charged, answered]
  refine ⟨_, rfl, ?_⟩
  rw [invocations_append, free, List.nil_append]
  exact List.filterMap_cons_some invoked

theorem makes (answers : engine.Answers inputs items result invocation) :
    engine.Makes inputs (.list items) result [invocation] := by
  intro payable state
  obtain ⟨log, answered, invoked⟩ := answers.watchBranch payable state
  exact ⟨_, log, answered, invoked⟩

end Answers

section

variable {name : String} {payload : List Node} (standard : engine.library = Standard.library)

include standard

theorem arguments_enlistingItems : engine.arguments .global enlistingItems = reacting.2 := by
  have wildcard := valueOf_enlisting (.head _)
  have placeholder := valueOf_enlisting (.tail _ (.head _))
  rw [← standard] at wildcard placeholder
  exact congrArg₂ (fun first second => [first, second, .list [.string "list", .string "p"]])
    wildcard placeholder

/-- The reaction is answered with the payload as it is. -/
theorem answers_enlisting {payload : Node} (event : inputs.event = some ⟨name, payload⟩) :
    engine.Answers inputs enlistingItems (enlisted payload) reacting := by
  have extended : engine.library.ExtendsStandard := standard ▸ extendsStandard_library
  have given := arguments_enlistingItems standard
  have answers : engine.Answers inputs enlistingItems (enlisted payload)
      ("event", engine.arguments .global enlistingItems) := by
    refine .call shape_enlistingItems (offers_of_mem extended mem_bindings_event).bound rfl ?_ ?_
    · rw [given]
      rfl
    · intro call world same
      dsimp only
      rw [given, same, event]
      rfl
  rwa [given] at answers

theorem charges_enlisting :
    engine.charges .global (.list enlistingItems) = [engine.settings.invokeAmount] := by
  have extended : engine.library.ExtendsStandard := standard ▸ extendsStandard_library
  refine (charges_call shape_enlistingItems).trans ?_
  rw [priceCharges_offered (offers_of_mem extended mem_bindings_event)]

end

/-- The list of a payload is another program. -/
theorem settle_enlisting (payload : List Node) :
    engine.settle (.list enlistingItems) (enlisted (.list payload)) =
      pure (.again (enlisted (.list payload))) := by
  refine (settle_renamed (by decide) [.list payload] _).trans ?_
  rw [compacted_of_full]
  · rfl
  · simp [Node.isNull]

section

variable {name : String} {payload : List Node} (standard : engine.library = Standard.library)
  (payable : Payable [engine.settings.invokeAmount])

include standard payable

/-- The rounds of the reaction go on with the list of the payload, one step later. -/
theorem watchRounds_enlisting (noArguments : inputs.argv = [])
    (event : inputs.event = some ⟨name, .list payload⟩) (limit : Nat) (first : Bool)
    (state : State) :
    ∃ (after : State) (log : List Deed), after.Resembles state ∧
      after.counter = state.counter + 1 ∧ invocations log = [reacting] ∧
      engine.watchRounds inputs (limit + 1) first (.list enlistingItems) (state.holding endless) =
        let later := engine.watchRounds inputs limit false (enlisted (.list payload))
          (after.holding endless)
        ⟨later.result, later.state, log ++ later.log⟩ := by
  rw [← charges_enlisting standard] at payable
  obtain ⟨log, answered, invoked⟩ := (answers_enlisting standard event).watchBranch payable state
  exact ⟨_, log, engine.resembles_entered .global enlistingItems state,
    engine.entered_counter .global enlistingItems state, invoked,
    watchRounds_again noArguments answered (settle_enlisting payload) limit⟩

theorem on_rounds_enlisting (noArguments : inputs.argv = [])
    (event : inputs.event = some ⟨name, .list payload⟩) (limit : Nat) (first : Bool)
    (state : State) :
    ∃ after : State, after.Resembles state ∧ after.counter = state.counter + 1 ∧
      (engine.rounds inputs (limit + 1) first (.list enlistingItems)).on (state.holding endless) =
        (engine.rounds inputs limit false (enlisted (.list payload))).on
          (after.holding endless) := by
  obtain ⟨after, log, resembles, counted, -, went⟩ :=
    watchRounds_enlisting standard payable noArguments event limit first state
  refine ⟨after, resembles, counted, ?_⟩
  rw [← unwatched_watchRounds, on_unwatched, went, ← unwatched_watchRounds]
  rfl

end

section

variable (standard : engine.library = Standard.library)
  (unbound : engine.library.function? engine.settings.fallback .global = none) {item : Node}
  (datum : item.isDatum = true)

include standard unbound

theorem resolve?_list : engine.resolve? .global "list" = none := by
  rw [resolve?, unbound, standard, function?_none (.head _)]
  rfl

include datum

/-- The caster of lists answers with a datum as it is. -/
theorem answers_enlisted :
    engine.Answers inputs [.string "list", item] (.quotedList [item]) ("list", [item]) := by
  have bound := caster?_list
  rw [← standard] at bound
  have given : engine.arguments .global [.string "list", item] = [item] :=
    congrArg (fun argument => [argument]) (Node.valueOf_of_isDatum datum _ _)
  have answers : engine.Answers inputs [.string "list", item] (.quotedList [item])
      ("list", engine.arguments .global [.string "list", item]) :=
    .cast (shape_enlisted_datum datum) (resolve?_list standard unbound) bound (by rw [given])
  rwa [given] at answers

theorem charges_enlisted :
    engine.charges .global (enlisted item) = [engine.settings.invokeAmount] := by
  rw [enlisted_eq, charges_call (shape_enlisted_datum datum), priceCharges,
    resolve?_list standard unbound]

end

section

variable {payload : List Node} (standard : engine.library = Standard.library)

include standard

theorem innerScope_enlisted (item : Node) :
    engine.library.innerScope .global [.string "list", item] = .global := by
  have closed := opensScope_library "list"
  rw [← standard] at closed
  exact innerScope_closed closed _

/-- A payload with items invokes what it invokes as a program. -/
theorem invokes_enlisted (filled : payload ≠ []) {invocation : String × List Node}
    (invokes : engine.Invokes inputs (.list payload) invocation) :
    engine.Invokes inputs (enlisted (.list payload)) invocation :=
  .sequence (shape_enlisted_filled filled) (innerScope_enlisted standard _) (.tail _ (.head _))
    invokes

theorem charges_enlisted_filled (filled : payload ≠ []) :
    engine.charges .global (enlisted (.list payload)) =
      engine.settings.sequenceAmount * Float.ofNat 2 :: engine.charges .global (.list payload) := by
  rw [enlisted_eq, charges, shape_enlisted_filled filled, innerScope_enlisted standard]
  simp [bill, itemCharges, engine.charges_other .global (.string "list") rfl]

end

theorem opened_counter (engine : Engine) (program : Node) (state : State) :
    (engine.opened program state).counter = 0 := by
  have noted (names : List String) (state : State) :
      (names.foldl (fun state name => state.noting (.undefinedName name)) state).counter =
        state.counter := by
    induction names generalizing state with
    | nil => rfl
    | cons name rest inductionHypothesis => exact inductionHypothesis (state.noting _)
  unfold opened
  split_ifs
  · exact noted _ _
  · rfl

end Engine

namespace Session

open Reduction Standard

/-- A run without a limit ends in the state that its rounds leave. -/
theorem on_run_unlimited (session : Session) (inputs : Inputs) (limit : Nat) (program : Node) :
    let outcome := (session.engine.rounds inputs limit true program).on
      ((session.engine.opened program session.state).holding endless)
    ((session.withBalance none).run inputs limit program).1 = outcome.1 ∧
      ((session.withBalance none).run inputs limit program).2.state = outcome.2 := by
  dsimp only
  rw [← opened_unlimited, run_eq]
  exact ⟨rfl, rfl⟩

section

variable {session : Session} {inputs : Inputs} {name : String} {payload : List Node}
  (standard : session.engine.library = Standard.library)
  (payable : Payable [session.engine.settings.invokeAmount]) (noArguments : inputs.argv = [])
  (event : inputs.event = some ⟨name, .list payload⟩)

include standard payable noArguments event

/-- The reaction ends as the list of the payload does. -/
theorem run_enlisting (limit : Nat) :
    ((session.withBalance none).run inputs (limit + 1) (.list enlistingItems)).1 =
      ((session.withBalance none).run inputs limit (enlisted (.list payload))).1 := by
  have heedless : session.engine.library.Heedless := standard ▸ heedless_library
  refine run_eq_of_agree fun left right resembles => ?_
  obtain ⟨after, entered, -, went⟩ :=
    Engine.on_rounds_enlisting standard payable noArguments event limit true left
  rw [went, Engine.rounds_first noArguments limit true]
  exact Engine.resembles_rounds heedless inputs limit false _ _ _
    ((entered.trans resembles).withMeter _)

/-- A run that counts no step for the payload has found it empty. -/
theorem empty_of_counter {limit : Nat} {result : Option Node}
    (ran : ((session.withBalance none).run inputs (limit + 2) (.list enlistingItems)).1 = .ok result)
    (counted : ((session.withBalance none).run inputs (limit + 2)
      (.list enlistingItems)).2.state.counter = 2) : payload = [] := by
  by_contra filled
  obtain ⟨after, -, entered, went⟩ := Engine.on_rounds_enlisting standard payable noArguments event
    (limit + 1) true (session.engine.opened (.list enlistingItems) session.state)
  rw [Engine.opened_counter] at entered
  obtain ⟨ends, leaves⟩ := session.on_run_unlimited inputs (limit + 2) (.list enlistingItems)
  rw [ends, went] at ran
  rw [leaves, went] at counted
  -- The second pass has been paid for, since the run has not failed.
  obtain ⟨settled, middle, passed, -⟩ := on_bind_eq_ok (Prod.ext ran rfl)
  have steps := Engine.steps_le_rounds noArguments (Engine.payable_of_round noArguments passed)
    limit false after
  have several := steps_enlisted filled
  rw [enlisted_eq] at several counted
  omega

/-- What a payload with items invokes as a program is invoked by the run. -/
theorem mem_invocations_enlisting (filled : payload ≠ [])
    (nextPayable : Payable (session.engine.charges .global (enlisted (.list payload))))
    {invocation : String × List Node}
    (invokes : session.engine.Invokes inputs (.list payload) invocation) (limit : Nat) :
    invocation ∈ (session.withBalance none).invocations inputs (limit + 2)
      (.list enlistingItems) := by
  rw [← Engine.charges_enlisting standard] at payable
  have invoked := (Engine.answers_enlisting standard event).makes.mem_invocations_rounds noArguments
    (Engine.settle_enlisting payload) payable nextPayable
    (Engine.invokes_enlisted standard filled invokes) limit true
    (session.engine.opened (.list enlistingItems) session.state)
  rw [← opened_unlimited] at invoked
  exact invoked

end

/-- The empty payload is handed on as it is. -/
theorem run_enlisting_empty {session : Session} {inputs : Inputs} {name : String}
    (standard : session.engine.library = Standard.library)
    (payable : Payable [session.engine.settings.invokeAmount]) (noArguments : inputs.argv = [])
    (event : inputs.event = some ⟨name, .list []⟩)
    (unbound : session.engine.library.function? session.engine.settings.fallback .global = none)
    (limit : Nat) :
    ((session.withBalance none).run inputs (limit + 2) (.list enlistingItems)).1 =
        .ok (some (.list [.list []])) ∧
      ((session.withBalance none).run inputs (limit + 2)
        (.list enlistingItems)).2.state.counter = 2 ∧
      (session.withBalance none).invocations inputs (limit + 2) (.list enlistingItems) =
        [reacting, ("list", [.list []])] := by
  obtain ⟨middle, log, -, entered, reacted, went⟩ := Engine.watchRounds_enlisting standard payable
    noArguments event (limit + 1) true
    (session.engine.opened (.list enlistingItems) session.state)
  have charged : session.engine.charges .global (enlisted (.list [])) = _ :=
    Engine.charges_enlisted standard unbound rfl
  rw [← charged] at payable
  obtain ⟨later, answered, cast⟩ :=
    (Engine.answers_enlisted standard unbound rfl).watchBranch payable middle
  have ended : session.engine.watchRounds inputs (limit + 1) false (enlisted (.list []))
      (middle.holding endless) = _ := Engine.watchRounds_done noArguments answered rfl limit
  rw [Engine.opened_counter] at entered
  rw [ended] at went
  obtain ⟨ends, leaves⟩ := session.on_run_unlimited inputs (limit + 2) (.list enlistingItems)
  rw [← Engine.unwatched_watchRounds, Watched.on_unwatched, went] at ends leaves
  refine ⟨ends, ?_, ?_⟩
  · rw [leaves]
    exact (session.engine.entered_counter .global _ middle).trans (congrArg (· + 1) entered)
  · rw [← opened_unlimited] at went
    refine (congrArg (fun outcome => Deed.invocations outcome.log) went).trans ?_
    rw [invocations_append, reacted, cast]
    rfl

/-- The payload of an event is a program. With an unlimited balance the run of the reaction ends as
the run of the list of the payload does, one pass later. The payload is handed on as it is, without
a step of its own, exactly when it is empty; and whatever a payload with items invokes as a program
is invoked by the run. -/
theorem event_payload_reduced (session : Session) (name : String) (payload : List Node)
    (standard : session.engine.library = Standard.library)
    (valid : session.engine.settings.validate = .ok ())
    (unbound : Standard.library.function? session.engine.settings.fallback .global = none) :
    let inputs : Inputs := ⟨[], some ⟨name, .list payload⟩⟩
    let unlimited := session.withBalance none
    let reaction := Node.list enlistingItems
    (∀ limit, (unlimited.run inputs (limit + 1) reaction).1 =
      (unlimited.run inputs limit (enlisted (.list payload))).1) ∧
    (∀ limit, 2 ≤ limit →
      ((unlimited.run inputs limit reaction).1 = .ok (some (.list [.list payload])) ∧
        (unlimited.run inputs limit reaction).2.state.counter = 2 ∧
        unlimited.invocations inputs limit reaction =
          [reacting, ("list", [.list payload])] ↔ payload = [])) ∧
    (payload ≠ [] → Payable (session.engine.charges .global (enlisted (.list payload))) →
      ∀ invocation, session.engine.Invokes inputs (.list payload) invocation →
        ∀ limit, 2 ≤ limit → invocation ∈ unlimited.invocations inputs limit reaction) := by
  intro inputs unlimited reaction
  have payable := Engine.payable_invoke valid
  refine ⟨run_enlisting standard payable rfl rfl, fun limit enough => ?_,
    fun filled nextPayable invocation invokes limit enough => ?_⟩
  · obtain ⟨limit, rfl⟩ := Nat.exists_eq_add_of_le' enough
    constructor
    · rintro ⟨ran, counted, -⟩
      exact empty_of_counter standard payable rfl rfl ran counted
    · rintro rfl
      rw [← standard] at unbound
      exact run_enlisting_empty standard payable rfl rfl unbound limit
  · obtain ⟨limit, rfl⟩ := Nat.exists_eq_add_of_le' enough
    exact mem_invocations_enlisting standard payable rfl rfl filled nextPayable invokes limit

/-- A list that reads as a sum of two numbers. -/
def sumItems : List Node :=
  [.string "+", .number 1.0, .number 2.0]

theorem sumItems_ne_nil : sumItems ≠ [] :=
  List.cons_ne_nil _ _

theorem shape_sumItems : Node.shape sumItems = .call "+" :=
  Node.shape_call (by decide) (by simp [Node.isValue])

theorem unbound_fallback :
    Standard.library.function? (standing {}).engine.settings.fallback .global = none :=
  function?_none (.tail _ (.head _))

theorem charges_enlisted_sum {engine : Engine} (standard : engine.library = Standard.library) :
    engine.charges .global (enlisted (.list sumItems)) =
      [engine.settings.sequenceAmount * Float.ofNat 2, engine.settings.invokeAmount] := by
  have extended : engine.library.ExtendsStandard := standard ▸ extendsStandard_library
  have sum : engine.charges .global (.list sumItems) = _ := Engine.charges_call shape_sumItems
  rw [Engine.charges_enlisted_filled standard sumItems_ne_nil, sum,
    Engine.priceCharges_offered (offers_of_mem extended mem_bindings_plus)]

theorem payable_sum : Payable
    [(standing {}).engine.settings.invokeAmount,
      (standing {}).engine.settings.sequenceAmount * Float.ofNat 2,
      (standing {}).engine.settings.invokeAmount, (standing {}).engine.settings.invokeAmount] := by
  unfold Payable
  decide +kernel

/-- The empty payload is listed as it is, and a sum is added. -/
theorem empty_payload_listed :
    (((standing {}).withBalance none).run ⟨[], some ⟨"e", .list []⟩⟩ 2 (.list enlistingItems)).1 =
      .ok (some (.list [.list []])) ∧
    ("+", [.number 1.0, .number 2.0]) ∈ ((standing {}).withBalance none).invocations
      ⟨[], some ⟨"e", .list sumItems⟩⟩ 2 (.list enlistingItems) := by
  have offers := offers_of_mem extendsStandard_library mem_bindings_plus
  have empty := event_payload_reduced (standing {}) "e" [] rfl rfl unbound_fallback
  have filled := event_payload_reduced (standing {}) "e" sumItems rfl rfl unbound_fallback
  refine ⟨((empty.2.1 2 (le_refl 2)).mpr rfl).1, filled.2.2 sumItems_ne_nil ?_ _ ?_ 2 (le_refl 2)⟩
  · rw [charges_enlisted_sum rfl]
    have later := ((payable_append [_] _).mp payable_sum).2
    exact ((payable_append [_, _] _).mp later).1
  · exact .call shape_sumItems ⟨by decide, offers.bound, nofun, fun _ => rfl⟩

/-- A sum in the payload is added before it is listed. -/
theorem completes_sum (engine : Engine) (inputs : Inputs) (name : String)
    (standard : engine.library = Standard.library) (noArguments : inputs.argv = [])
    (event : inputs.event = some ⟨name, .list sumItems⟩)
    (unbound : engine.library.function? engine.settings.fallback .global = none) :
    engine.Completes inputs (.list enlistingItems) (.list [.number (1.0 + 2.0)]) 3
      [reacting, ("+", [.number 1.0, .number 2.0]), ("list", [.number (1.0 + 2.0)])]
      [engine.settings.invokeAmount, engine.settings.sequenceAmount * Float.ofNat 2,
        engine.settings.invokeAmount, engine.settings.invokeAmount] := by
  have extended : engine.library.ExtendsStandard := standard ▸ extendsStandard_library
  have adds : engine.Makes inputs (.list sumItems) (.number (1.0 + 2.0))
      [("+", [.number 1.0, .number 2.0])] :=
    .call shape_sumItems rfl
      (Engine.applies_of_mem extended mem_bindings_plus (by decide) rfl rfl)
  have items : List.Forall₂ (fun node outcome => engine.Makes inputs node outcome.1 outcome.2)
      [.string "list", .list sumItems]
      [(.string "list", []), (.number (1.0 + 2.0), [("+", [.number 1.0, .number 2.0])])] :=
    .cons (.other rfl) (.cons adds .nil)
  have reduces : engine.Makes inputs (enlisted (.list sumItems)) (enlisted (.number (1.0 + 2.0)))
      [("+", [.number 1.0, .number 2.0])] :=
    .sequence (shape_enlisted_filled sumItems_ne_nil) (Engine.innerScope_enlisted standard _) items
  have settles : engine.settle (enlisted (.list sumItems)) (enlisted (.number (1.0 + 2.0))) =
      pure (.again (enlisted (.number (1.0 + 2.0)))) :=
    Engine.settle_changed (by simp) rfl
  have casts : engine.Completes inputs (enlisted (.number (1.0 + 2.0)))
      (.list [.number (1.0 + 2.0)]) 1 _ _ :=
    .last noArguments (Engine.answers_enlisted standard unbound rfl).makes rfl
  have completes : engine.Completes inputs (.list enlistingItems) _ _ _
      (engine.charges .global (.list enlistingItems) ++
        (engine.charges .global (enlisted (.list sumItems)) ++
          engine.charges .global (enlisted (.number (1.0 + 2.0))))) :=
    .step noArguments (Engine.answers_enlisting standard event).makes
      (Engine.settle_enlisting sumItems) (.step noArguments reduces settles casts)
  rwa [Engine.charges_enlisting standard, charges_enlisted_sum standard,
    Engine.charges_enlisted standard unbound rfl] at completes

/-- The list of the sum holds what the sum reduces to, which is no list. -/
theorem sum_payload_added :
    (((standing {}).withBalance none).run ⟨[], some ⟨"e", .list sumItems⟩⟩ 3
        (.list enlistingItems)).1 = .ok (some (.list [.number 3.0])) := by
  have completes := completes_sum (standing {}).engine ⟨[], some ⟨"e", .list sumItems⟩⟩ "e" rfl rfl
    rfl unbound_fallback
  exact (run_completes completes payable_sum 3).1

end Session

end Reduct
