import Reduct.Proofs.Enclosure
import Reduct.Proofs.Exhaustion

namespace Reduct

namespace Node

/-- A null, a bool, a number or a map. -/
def isPlain : Node → Bool
  | .null => true
  | .bool _ => true
  | .number _ => true
  | .map _ => true
  | _ => false

variable {node : Node}

theorem isValue_of_isPlain (plain : node.isPlain = true) : node.isValue = true := by
  cases node with
  | list => cases plain
  | _ => rfl

theorem isList_of_isPlain (plain : node.isPlain = true) : node.isList = false := by
  cases node with
  | list => cases plain
  | _ => rfl

theorem weight_of_isPlain (plain : node.isPlain = true) : node.weight = 1 := by
  cases node with
  | string | list => cases plain
  | _ => simp [weight]

theorem valueOf_of_isPlain (plain : node.isPlain = true) (library : Library) (scope : Scope) :
    library.valueOf scope node.unquoted = node := by
  cases node with
  | string | quote => cases plain
  | _ => rfl

end Node

/-- A step is a call of a name on numbers. -/
structure Step where
  name : String
  numbers : List Float

namespace Step

def arguments (step : Step) : List Node :=
  step.numbers.map .number

def toNode (step : Step) : Node :=
  .list (.string step.name :: step.arguments)

variable (step : Step)

theorem isValue_arguments : ∀ argument ∈ step.arguments, argument.isValue = true := by
  intro argument member
  obtain ⟨number, -, rfl⟩ := List.mem_map.mp member
  rfl

theorem arguments_toNode (engine : Engine) :
    engine.arguments .global (.string step.name :: step.arguments) = step.arguments := by
  rw [Engine.arguments, List.drop_one, List.tail_cons]
  refine (List.map_congr_left fun argument member => ?_).trans (List.map_id step.arguments)
  obtain ⟨number, -, rfl⟩ := List.mem_map.mp member
  rfl

theorem weight_toNode : 3 ≤ step.toNode.weight := by
  rw [toNode, Node.weight, Node.weights, Node.weight]
  omega

end Step

namespace Deed

/-- A deed that calls the function of a step. -/
def Calls (deed : Deed) (step : Step) : Prop :=
  ∃ call : Call, deed.act = .call call step.arguments ∧ call.name = step.name ∧
    call.scope = .global

/-- The deeds that invoke a function or a caster. -/
def invoking (log : List Deed) : List Deed :=
  log.filter (·.invocation?.isSome)

/-- The deeds that invoke a function or a caster of another name than some. -/
def besides (names : List String) (log : List Deed) : List Deed :=
  log.filter fun deed => deed.invocation?.any fun invoked => !names.contains invoked.1

/-- A log that invokes nothing but these names. -/
def InvokesOnly (names : List String) (log : List Deed) : Prop :=
  ∀ invoked ∈ invocations log, invoked.1 ∈ names

@[simp] theorem invoking_append (first second : List Deed) :
    invoking (first ++ second) = invoking first ++ invoking second :=
  List.filter_append ..

@[simp] theorem besides_append (names : List String) (first second : List Deed) :
    besides names (first ++ second) = besides names first ++ besides names second :=
  List.filter_append ..

theorem InvokesOnly.append {names : List String} {first second : List Deed}
    (before : InvokesOnly names first) (after : InvokesOnly names second) :
    InvokesOnly names (first ++ second) := by
  rw [InvokesOnly, invocations_append]
  exact List.forall_mem_append.mpr ⟨before, after⟩

theorem invokesOnly_of_nil (names : List String) {log : List Deed} (none : invocations log = []) :
    InvokesOnly names log := by
  rw [InvokesOnly, none]
  exact nofun

theorem invoking_of_nil {log : List Deed} (none : invocations log = []) : invoking log = [] := by
  rw [invocations, List.filterMap_eq_nil_iff] at none
  rw [invoking, List.filter_eq_nil_iff]
  intro deed member
  rw [none deed member]
  exact Bool.false_ne_true

theorem besides_eq_nil {names : List String} {log : List Deed} (only : InvokesOnly names log) :
    besides names log = [] := by
  rw [besides, List.filter_eq_nil_iff]
  intro deed member
  cases invoked : deed.invocation? with
  | none => simp
  | some invocation =>
      have listed := only invocation (List.mem_filterMap.mpr ⟨deed, member, invoked⟩)
      simpa using listed

theorem Calls.invocation? {deed : Deed} {step : Step} (calls : deed.Calls step) :
    deed.invocation? = some (step.name, step.arguments) := by
  obtain ⟨call, act, name, -⟩ := calls
  rw [Deed.invocation?, act, ← name]

theorem Calls.invoking {deed : Deed} {step : Step} (calls : deed.Calls step) :
    invoking [deed] = [deed] := by
  simp [Deed.invoking, calls.invocation?]

theorem Calls.besides {deed : Deed} {step : Step} (calls : deed.Calls step) {names : List String}
    (unlisted : step.name ∉ names) : besides names [deed] = [deed] := by
  simp [Deed.besides, calls.invocation?, unlisted]

end Deed

theorem Watched.mem_log_bind {α β : Type} {watched : Watched α} {next : α → Watched β}
    {state : State} {deed : Deed} (member : deed ∈ (watched state).log) :
    deed ∈ ((watched >>= next) state).log := by
  rcases outcome : watched state with ⟨error | value, middle, log⟩
  all_goals rw [outcome] at member
  · rwa [bind_error outcome]
  · rw [bind_ok outcome]
    exact List.mem_append_left _ member

namespace Engine

open Reduction Watched Deed Standard

/-- What the function of a call answers, and the world after it. -/
def answer? (engine : Engine) (deed : Deed) : Option (Except Error Node × World) :=
  match deed.act with
  | .call call arguments =>
    (engine.library.function? call.name call.scope).map fun function =>
      (function.call call arguments).run deed.world
  | _ => none

theorem answer?_call (engine : Engine) (world : World) (call : Call) (arguments : List Node) :
    engine.answer? ⟨world, .call call arguments⟩ =
      (engine.library.function? call.name call.scope).map fun function =>
        (function.call call arguments).run world := rfl

/-- Steps that may be called. -/
def AdmitsAll (engine : Engine) (steps : List Step) : Prop :=
  ∀ step ∈ steps, ∃ function, engine.Admits step.name function step.arguments.length

/-- A log in which every call of a step succeeds with a plain node. -/
def AnswersAll (engine : Engine) (steps : List Step) (log : List Deed) : Prop :=
  ∀ deed ∈ log, ∀ step ∈ steps, deed.Calls step →
    ∃ value world, engine.answer? deed = some (.ok value, world) ∧ value.isPlain = true

theorem AnswersAll.mono {engine : Engine} {steps fewer : List Step} {log shorter : List Deed}
    (answers : engine.AnswersAll steps log) (inside : fewer ⊆ steps) (earlier : shorter ⊆ log) :
    engine.AnswersAll fewer shorter :=
  fun deed member step listed => answers deed (earlier member) step (inside listed)

section

variable {engine : Engine} {steps : List Step}
  (applies : ∀ step ∈ steps, ∃ value, engine.Applies step.name step.arguments value ∧
    value.isPlain = true)

include applies

/-- Steps that always have an answer may be called. -/
theorem admitsAll_of_applies : engine.AdmitsAll steps := by
  intro step member
  obtain ⟨value, ⟨function, admits, -⟩, -⟩ := applies step member
  exact ⟨function, admits⟩

theorem answersAll_of_applies (log : List Deed) : engine.AnswersAll steps log := by
  rintro ⟨world, act⟩ - step member ⟨call, rfl, named, scope⟩
  obtain ⟨value, ⟨function, admits, yields⟩, plain⟩ := applies step member
  refine ⟨value, ((function.call call step.arguments).run world).2, ?_, plain⟩
  rw [answer?_call, named, scope, admits.bound, Option.map_some]
  exact congrArg some (Prod.ext (yields call world) rfl)

end

/-- Deeds that call some steps one after another, with their values. Each call finds the store that
the call before it has left. -/
inductive Performs (engine : Engine) :
    Storage → List Step → List Deed → List Node → Storage → Prop
  | nil (storage : Storage) : Performs engine storage [] [] [] storage
  | cons {deed : Deed} {step : Step} {value : Node} {world : World} {steps : List Step}
      {deeds : List Deed} {values : List Node} {final : Storage} (calls : deed.Calls step)
      (answers : engine.answer? deed = some (.ok value, world))
      (later : Performs engine world.storage steps deeds values final) :
      Performs engine deed.world.storage (step :: steps) (deed :: deeds) (value :: values) final

/-- Steps that are performed start with a call of the first one. -/
theorem Performs.exists_of_cons {engine : Engine} {storage final : Storage} {step : Step}
    {steps : List Step} {deeds : List Deed} {values : List Node}
    (performs : engine.Performs storage (step :: steps) deeds values final) :
    ∃ (deed : Deed) (value : Node) (world : World) (others : List Deed) (further : List Node),
      deeds = deed :: others ∧ values = value :: further ∧ deed.Calls step ∧
        engine.answer? deed = some (.ok value, world) ∧
        engine.Performs world.storage steps others further final := by
  cases performs with
  | cons calls answers later => exact ⟨_, _, _, _, _, rfl, rfl, calls, answers, later⟩

theorem Performs.eq_of_nil {engine : Engine} {storage final : Storage} {deeds : List Deed}
    {values : List Node} (performs : engine.Performs storage [] deeds values final) :
    deeds = [] ∧ values = [] ∧ final = storage := by
  cases performs with
  | nil => exact ⟨rfl, rfl, rfl⟩

theorem Performs.length_eq {engine : Engine} {storage final : Storage} {steps : List Step}
    {deeds : List Deed} {values : List Node}
    (performs : engine.Performs storage steps deeds values final) :
    values.length = steps.length := by
  induction performs with
  | nil => rfl
  | cons _ _ _ inductionHypothesis =>
      rw [List.length_cons, List.length_cons, inductionHypothesis]

/-- An endless balance that pays the charges of a node reduces it to another one, invokes only some
names for it and leaves the store as it is. -/
def Rewrites (engine : Engine) (inputs : Inputs) (names : List String) (node reduced : Node) :
    Prop :=
  Payable (engine.charges .global node) → ∀ state : State, ∃ (after : State) (log : List Deed),
    engine.watchBranch inputs .global node (state.holding endless) =
        ⟨.ok reduced, after.holding endless, log⟩ ∧
      InvokesOnly names log ∧ after.world.storage = state.world.storage

variable {engine : Engine} {inputs : Inputs}

/-- A call that is ready and paid for calls its function, and the store is the same until then. -/
theorem Admits.watchBranch {name : String} {function : Function} {rest arguments : List Node}
    (admits : engine.Admits name function arguments.length) (inputs : Inputs)
    (ready : ∀ item ∈ rest, item.isValue = true)
    (given : engine.arguments .global (.string name :: rest) = arguments)
    (payable : Payable (engine.charges .global (.list (.string name :: rest)))) (state : State) :
    ∃ (charges : List Deed) (call : Call) (middle : State), invocations charges = [] ∧
      call.name = name ∧ call.scope = .global ∧ middle.world.storage = state.world.storage ∧
        engine.watchBranch inputs .global (.list (.string name :: rest)) (state.holding endless) =
          let called := doing (.call call arguments) (perform (function.call call arguments))
            (middle.holding endless)
          ⟨called.result, called.state, charges ++ called.log⟩ := by
  subst given
  have shape := Node.shape_call admits.unquoted ready
  rw [charges, payable_append] at payable
  obtain ⟨charges, charged, free⟩ := chargeAll_payable payable.1 (.string name :: rest)
    (engine.entered .global (.string name :: rest) state)
  obtain ⟨call, middle, named, scope, meter, storage, called⟩ := admits.watchCall inputs
    (state.counter + 1) ((engine.entered .global (.string name :: rest) state).holding endless)
  have held : middle.holding endless = middle := State.holding_of_meter meter
  refine ⟨charges, call, middle, free, named, scope, ?_, ?_⟩
  · exact storage.trans (still_entered .global (.string name :: rest) state).memory.storage
  · rw [watchBranch_holding, bind_ok charged, shape, watchList, called, held]

/-- A function of its arguments alone rewrites its call. -/
theorem rewrites_computes {names : List String} {name : String} {signature : Signature}
    {compute : List Node → Except Error Node} {rest arguments : List Node} {result : Node}
    (extended : engine.library.ExtendsStandard)
    (member : computes name signature compute ∈ bindings) (listed : name ∈ names)
    (unquoted : Node.isQuoteName name = false) (ready : ∀ item ∈ rest, item.isValue = true)
    (given : engine.arguments .global (.string name :: rest) = arguments)
    (arity : Signature.check (some signature) arguments.length = .ok ())
    (computed : compute arguments = .ok result) :
    engine.Rewrites inputs names (.list (.string name :: rest)) result := by
  intro payable state
  have admits : engine.Admits name
      ⟨some signature, false, fun _ arguments => Action.lift (compute arguments)⟩
      arguments.length :=
    ⟨unquoted, (offers_of_mem extended member).bound, nofun, fun _ => arity⟩
  obtain ⟨charges, call, middle, free, named, -, storage, called⟩ :=
    admits.watchBranch inputs ready given payable state
  rw [doing, on_perform, Action.run_lift, computed] at called
  refine ⟨middle, _, called, ?_, storage⟩
  refine (invokesOnly_of_nil names free).append fun invoked member => ?_
  obtain rfl := List.mem_singleton.mp member
  exact named ▸ listed

/-- A list that is enclosed is rewritten as it is alone. -/
theorem Rewrites.around {names : List String} {enclosure : Enclosure} {inner reduced : Node}
    (closes : engine.Closes enclosure) (unready : inner.isValue = false)
    (rewrites : engine.Rewrites inputs names inner reduced) :
    engine.Rewrites inputs names (enclosure.around inner) (enclosure.around reduced) := by
  intro payable state
  rw [charges_around closes unready, payable_cons] at payable
  obtain ⟨charges, free, reduces⟩ :=
    watchBranch_around inputs closes unready payable.1 state
  obtain ⟨after, log, inside, only, storage⟩ :=
    rewrites payable.2 (engine.entered .global (enclosure.items inner) state)
  refine ⟨after, charges ++ log, ?_, (invokesOnly_of_nil names free).append only, ?_⟩
  · rw [reduces, inside]
    rfl
  · exact storage.trans (still_entered .global (enclosure.items inner) state).memory.storage

/-- A step that is paid for is one call. When it is answered, the step is reduced to the answer. -/
theorem watchBranch_step {step : Step} {function : Function}
    (admits : engine.Admits step.name function step.arguments.length) (inputs : Inputs)
    (payable : Payable (engine.charges .global step.toNode)) (state : State) :
    ∃ (charges : List Deed) (deed : Deed), invocations charges = [] ∧ deed.Calls step ∧
      deed.world.storage = state.world.storage ∧
      (engine.watchBranch inputs .global step.toNode (state.holding endless)).log =
        charges ++ [deed] ∧
      ∀ value world, engine.answer? deed = some (.ok value, world) →
        ∃ after : State, after.world = world ∧
          engine.watchBranch inputs .global step.toNode (state.holding endless) =
            ⟨.ok value, after.holding endless, charges ++ [deed]⟩ := by
  obtain ⟨charges, call, middle, free, named, scope, storage, called⟩ :=
    admits.watchBranch inputs step.isValue_arguments (step.arguments_toNode engine) payable state
  rw [← Step.toNode] at called
  refine ⟨charges, ⟨middle.world, .call call step.arguments⟩, free, ⟨call, rfl, named, scope⟩,
    storage, by rw [called]; rfl, fun value world answered => ?_⟩
  rw [answer?_call, named, scope, admits.bound] at answered
  have ran : (function.call call step.arguments).run (middle.holding endless).world =
      (.ok value, world) := Option.some.inj answered
  refine ⟨{ middle with world := world }, rfl, ?_⟩
  rw [called, doing, on_perform]
  dsimp only
  rw [ran]
  rfl

section

variable {name : String} {rest : List Node} {first : Bool}

/-- A round over a list that a name leads reduces the list and settles the result. -/
theorem watchRound_named (noArguments : inputs.argv = []) {reduced : Node} {settled : Settled}
    {state after : State} {log : List Deed}
    (branched : engine.watchBranch inputs .global (.list (.string name :: rest)) state =
      ⟨.ok reduced, after, log⟩)
    (settles : engine.settle (.list (.string name :: rest)) reduced = pure settled) :
    engine.watchRound inputs first (.list (.string name :: rest)) state =
      ⟨.ok settled, after, log⟩ := by
  rw [← engine.watchPass_named noArguments first] at branched
  rw [watchRound, bind_ok branched, settles]
  exact congrArg _ (List.append_nil log)

theorem watchRounds_done (noArguments : inputs.argv = []) {reduced value : Node}
    {state after : State} {log : List Deed}
    (branched : engine.watchBranch inputs .global (.list (.string name :: rest)) state =
      ⟨.ok reduced, after, log⟩)
    (settles : engine.settle (.list (.string name :: rest)) reduced = pure (.done value))
    (limit : Nat) :
    engine.watchRounds inputs (limit + 1) first (.list (.string name :: rest)) state =
      ⟨.ok (some value), after, log⟩ := by
  rw [watchRounds, bind_ok (watchRound_named noArguments branched settles)]
  exact congrArg _ (List.append_nil log)

theorem watchRounds_again (noArguments : inputs.argv = []) {reduced next : Node}
    {state after : State} {log : List Deed}
    (branched : engine.watchBranch inputs .global (.list (.string name :: rest)) state =
      ⟨.ok reduced, after, log⟩)
    (settles : engine.settle (.list (.string name :: rest)) reduced = pure (.again next))
    (limit : Nat) :
    engine.watchRounds inputs (limit + 1) first (.list (.string name :: rest)) state =
      let later := engine.watchRounds inputs limit false next after
      ⟨later.result, later.state, log ++ later.log⟩ := by
  rw [watchRounds, bind_ok (watchRound_named noArguments branched settles)]

/-- The deeds of the first round come first, whether or not it fails. -/
theorem mem_log_watchRounds (noArguments : inputs.argv = []) {state : State} {deed : Deed}
    (member : deed ∈ (engine.watchBranch inputs .global (.list (.string name :: rest)) state).log)
    (limit : Nat) :
    deed ∈ (engine.watchRounds inputs (limit + 1) first (.list (.string name :: rest))
      state).log := by
  rw [← engine.watchPass_named noArguments first] at member
  rw [watchRounds, watchRound]
  exact mem_log_bind (mem_log_bind member)

/-- Rounds that do not fail have paid the charges of their program. -/
theorem payable_of_watchRounds (noArguments : inputs.argv = []) {limit : Nat} {state : State}
    {result : Option Node}
    (ran : (engine.watchRounds inputs (limit + 1) first (.list (.string name :: rest))
      (state.holding endless)).result = .ok result) :
    Payable (engine.charges .global (.list (.string name :: rest))) := by
  have rounds : ((engine.rounds inputs (limit + 1) first (.list (.string name :: rest))).on
      (state.holding endless)).1 = .ok result := by
    rw [← unwatched_watchRounds, on_unwatched]
    exact ran
  obtain ⟨settled, middle, went, -⟩ := on_bind_eq_ok (Prod.ext rounds rfl)
  exact payable_of_round noArguments went

/-- Amounts that are payable, or that rounds which do not fail have paid. -/
def Affords (engine : Engine) (inputs : Inputs) (limit : Nat) (first : Bool) (program : Node)
    (state : State) (amounts : List Float) : Prop :=
  Payable amounts ∨ ∃ result,
    (engine.watchRounds inputs limit first program (state.holding endless)).result = .ok result

theorem Affords.payable (noArguments : inputs.argv = []) {limit : Nat} {state : State}
    {amounts : List Float}
    (affords : engine.Affords inputs (limit + 1) first (.list (.string name :: rest)) state
      (engine.charges .global (.list (.string name :: rest)) ++ amounts)) :
    Payable (engine.charges .global (.list (.string name :: rest))) := by
  rcases affords with payable | ⟨result, ran⟩
  · exact ((payable_append _ _).mp payable).1
  · exact payable_of_watchRounds noArguments ran

end

/-- Rounds that lead on to others leave the rest of the amounts to them. -/
theorem Affords.next {limit more : Nat} {first second : Bool} {program other : Node}
    {state middle : State} {paid amounts : List Float}
    (affords : engine.Affords inputs limit first program state (paid ++ amounts))
    (same : (engine.watchRounds inputs limit first program (state.holding endless)).result =
      (engine.watchRounds inputs more second other (middle.holding endless)).result) :
    engine.Affords inputs more second other middle amounts := by
  rcases affords with payable | ⟨result, ran⟩
  · exact .inl ((payable_append _ _).mp payable).2
  · exact .inr ⟨result, same.symm.trans ran⟩

end Engine

namespace Session

def runLog (session : Session) (inputs : Inputs) (limit : Nat) (program : Node) : List Deed :=
  (session.engine.watchRun inputs limit program session.state).log

/-- A run without a limit consists of the rounds under the endless balance. -/
theorem run_unlimited (session : Session) (inputs : Inputs) (limit : Nat) (program : Node) :
    let outcome := session.engine.watchRounds inputs limit true program
      ((session.engine.opened program session.state).holding endless)
    ((session.withBalance none).run inputs limit program).1 = outcome.result ∧
      ((session.withBalance none).run inputs limit program).2.storage =
        outcome.state.world.storage ∧
      (session.withBalance none).runLog inputs limit program = outcome.log := by
  dsimp only
  rw [← opened_unlimited, run_eq]
  have rounds := Watched.on_unwatched (session.engine.watchRounds inputs limit true program)
    (session.engine.opened program (session.withBalance none).state)
  rw [Engine.unwatched_watchRounds] at rounds
  exact ⟨congrArg Prod.fst rounds, congrArg (·.2.world.storage) rounds, rfl⟩

open Standard

/-- A function that keeps its argument in the store, and one that has no answer. -/
def recordingBindings : List Binding :=
  [ .function "put" ⟨none, true, fun _ arguments => do
      modify fun world => { world with storage := ⟨[("last", argument arguments 0)]⟩ }
      pure (argument arguments 0)⟩,
    .function "none" ⟨none, false, fun _ _ => pure .null⟩ ]

def recording : Session :=
  .start (table.bindAll recordingBindings).1.toLibrary {} .empty 0 0

theorem extendsStandard_recording : recording.engine.library.ExtendsStandard := by
  refine ⟨recordingBindings, fun binding member => hasFunction_table ?_, rfl⟩
  revert binding
  decide +kernel

theorem offers_recording {name : String} {function : Function}
    (member : .function name function ∈ recordingBindings) :
    recording.engine.library.Offers name function :=
  offers_added (by decide) (by decide) member

theorem applies_put (number : Float) :
    recording.engine.Applies "put" [.number number] (.number number) :=
  ⟨_, ⟨by decide, (offers_recording (.head _)).bound, fun _ => rfl, fun _ => rfl⟩, fun _ _ => rfl⟩

theorem answer?_put {deed : Deed} {number : Float} (calls : deed.Calls ⟨"put", [number]⟩) :
    recording.engine.answer? deed = some (.ok (.number number),
      { deed.world with storage := ⟨[("last", .number number)]⟩ }) := by
  obtain ⟨world, act⟩ := deed
  obtain ⟨call, rfl, named, scope⟩ := calls
  rw [Engine.answer?_call, named, scope, (offers_recording (.head _)).bound]
  rfl

theorem applies_none : recording.engine.Applies "none" [] .null :=
  Engine.applies_of_offers (offers_recording (.tail _ (.head _))) (by decide) rfl rfl fun _ _ => rfl

theorem answer?_none {deed : Deed} (calls : deed.Calls ⟨"none", []⟩) :
    recording.engine.answer? deed = some (.ok .null, deed.world) := by
  obtain ⟨world, act⟩ := deed
  obtain ⟨call, rfl, named, scope⟩ := calls
  rw [Engine.answer?_call, named, scope, (offers_recording (.tail _ (.head _))).bound]
  rfl

end Session

end Reduct
