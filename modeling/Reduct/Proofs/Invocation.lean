import Reduct.Proofs.StepCount

namespace Reduct

namespace Deed

/-- The function or the caster that a deed invokes, with its arguments. -/
def invocation? (deed : Deed) : Option (String × List Node) :=
  match deed.act with
  | .call call arguments => some (call.name, arguments)
  | .cast name _ arguments => some (name, arguments)
  | .charge _ _ | .resume _ _ _ => none

def invocations (log : List Deed) : List (String × List Node) :=
  log.filterMap invocation?

@[simp] theorem invocations_append (first second : List Deed) :
    invocations (first ++ second) = invocations first ++ invocations second :=
  List.filterMap_append

end Deed

open Deed

namespace Watched

theorem invocations_chargeAll (amounts : List Float) (items : List Node) (state : State) :
    invocations (chargeAll amounts items state).log = [] := by
  induction amounts generalizing state with
  | nil => rfl
  | cons amount rest inductionHypothesis =>
      rw [chargeAll]
      cases paid : (state.meter.transact amount).ok state.world.now with
      | true =>
          rw [bind_ok (charge_paid paid items), invocations_append, inductionHypothesis]
          rfl
      | false =>
          rw [bind_error (charge_refused paid items)]
          rfl

/-- Payable amounts are charged to the endless balance, and nothing is invoked for it. -/
theorem chargeAll_payable {amounts : List Float} (payable : Payable amounts) (items : List Node)
    (state : State) :
    ∃ log, chargeAll amounts items (state.holding endless) =
        ⟨.ok (), state.holding endless, log⟩ ∧ invocations log = [] := by
  obtain ⟨log, charged, -⟩ := chargeAll_endless payable items state
  have none := invocations_chargeAll amounts items (state.holding endless)
  rw [charged] at none
  exact ⟨log, charged, none⟩

end Watched

namespace Engine

open Reduction Watched

/-- A name that stands for a function in the global scope and may be called with some number of
arguments. -/
structure Admits (engine : Engine) (name : String) (function : Function) (count : Nat) : Prop where
  unquoted : Node.isQuoteName name = false
  bound : engine.library.function? name .global = some function
  purity : function.impure = true → engine.settings.allowImpure = true
  arity : engine.settings.arityCheck = true → Signature.check function.signature count = .ok ()

/-- A name whose function yields a result for some arguments, whatever its call and its world. -/
def Applies (engine : Engine) (name : String) (arguments : List Node) (result : Node) : Prop :=
  ∃ function, engine.Admits name function arguments.length ∧
    ∀ (call : Call) (world : World), ((function.call call arguments).run world).1 = .ok result

variable {engine : Engine} (inputs : Inputs)

/-- An arity that fits passes its check. -/
theorem checkArity_of_bound {name : String} {function : Function} {count : Nat}
    (bound : engine.library.function? name .global = some function)
    (arity : engine.settings.arityCheck = true →
      Signature.check function.signature count = .ok ()) :
    engine.checkArity .global name count = pure () := by
  rw [checkArity]
  split_ifs with checks
  · simp only [Library.inputs?, bound, Option.bind_some, arity checks]
  · rfl

/-- A pure function passes the check of its purity. -/
theorem checkPurity_of_calm {name : String} {function : Function}
    (bound : engine.library.function? name .global = some function)
    (calm : function.impure = false) : engine.checkPurity .global name = pure () := by
  rw [checkPurity, Library.isImpure, bound, Option.any_some, calm]
  rfl

/-- A function that may be called is called, after a note at most. -/
theorem Admits.watchCall {name : String} {function : Function} {items : List Node}
    (admits : engine.Admits name function (engine.arguments .global items).length) (id : Nat)
    (state : State) :
    ∃ (call : Call) (middle : State), call.name = name ∧ call.scope = .global ∧
      middle.meter = state.meter ∧ middle.world.storage = state.world.storage ∧
      engine.watchCall inputs .global id name items state =
        doing (.call call (engine.arguments .global items))
          (perform (function.call call (engine.arguments .global items))) middle := by
  have resolved : engine.resolve? .global name = some (name, function) := by
    rw [resolve?, admits.bound]
  have counted := checkArity_of_bound admits.bound admits.arity
  have permitted : ((engine.checkPurity .global name).on state).1 = .ok () := by
    rw [checkPurity, Library.isImpure, admits.bound, Option.any_some]
    split_ifs with impure forbidden
    · rw [admits.purity impure] at forbidden
      cases forbidden
    all_goals rfl
  have storage : ((engine.checkPurity .global name).on state).2.world.storage =
      state.world.storage := by
    rw [checkPurity]
    split_ifs <;> rfl
  have meter := (engine.ignoresMeter_checkPurity .global name).meter_eq state
  rcases checked : (engine.checkPurity .global name).on state with ⟨result, middle⟩
  rw [checked] at permitted meter storage
  obtain rfl : result = .ok () := permitted
  refine ⟨⟨id, engine.seed, name, items, inputs.argv, inputs.event, .global⟩, middle, rfl, rfl,
    meter, storage, ?_⟩
  simp only [Engine.watchCall, resolved, counted]
  rw [silent_bind (on_pure () state), silent_bind checked]

variable (engine)

/-- An endless balance that pays the charges of a node reduces it to another, and some functions
and casters are invoked for it. -/
def Makes (node reduced : Node) (made : List (String × List Node)) : Prop :=
  Payable (engine.charges .global node) → ∀ state : State, ∃ (after : State) (log : List Deed),
    engine.watchBranch inputs .global node (state.holding endless) =
        ⟨.ok reduced, after.holding endless, log⟩ ∧
      invocations log = made

namespace Makes

variable {engine inputs}

theorem other {node : Node} (other : node.isList = false) : engine.Makes inputs node node [] :=
  fun _ state => ⟨state, [], engine.watchBranch_other inputs .global node other _, rfl⟩

/-- A list makes what it makes once its bill is paid. -/
theorem of_watchList {items : List Node} {node : Node} {made : List (String × List Node)}
    (paid : Payable (engine.charges .global (.list items)) → ∀ (id : Nat) (state : State),
      ∃ (after : State) (log : List Deed),
        engine.watchList inputs .global id items (Node.shape items) (state.holding endless) =
            ⟨.ok node, after.holding endless, log⟩ ∧
          invocations log = made) :
    engine.Makes inputs (.list items) node made := by
  intro payable state
  obtain ⟨after, log, reduced, invoked⟩ :=
    paid payable (state.counter + 1) (engine.entered .global items state)
  rw [charges, payable_append] at payable
  obtain ⟨charges, charged, free⟩ :=
    chargeAll_payable payable.1 items (engine.entered .global items state)
  refine ⟨after, charges ++ log, ?_, ?_⟩
  · rw [watchBranch_holding, bind_ok charged, reduced]
  · rw [invocations_append, free, invoked, List.nil_append]

/-- A call that is ready invokes its function. -/
theorem call {name : String} {items arguments : List Node} {result : Node}
    (shape : Node.shape items = .call name)
    (given : engine.arguments .global items = arguments)
    (applies : engine.Applies name arguments result) :
    engine.Makes inputs (.list items) result [(name, arguments)] := by
  obtain ⟨function, admits, yields⟩ := applies
  subst given
  refine of_watchList fun _ id state => ?_
  obtain ⟨call, middle, rfl, -, meter, -, called⟩ :=
    admits.watchCall inputs id (state.holding endless)
  have held : middle = middle.holding endless := (State.holding_of_meter meter).symm
  rw [shape, watchList, called, held, doing, on_perform, yields]
  exact ⟨{ middle with world := _ }, _, rfl, rfl⟩

/-- Items are made one after another. -/
theorem items {nodes : List Node} {outcomes : List (Node × List (String × List Node))}
    (each : List.Forall₂ (fun node outcome => engine.Makes inputs node outcome.1 outcome.2)
      nodes outcomes)
    (payable : Payable (engine.itemCharges .global nodes)) (state : State) :
    ∃ (after : State) (log : List Deed),
      engine.watchItems inputs .global nodes (state.holding endless) =
          ⟨.ok ((outcomes.map Prod.fst).map .ok), after.holding endless, log⟩ ∧
        invocations log = outcomes.flatMap Prod.snd := by
  induction each generalizing state with
  | nil => exact ⟨state, [], engine.watchItems_nil inputs .global _, rfl⟩
  | cons first _ inductionHypothesis =>
      rw [itemCharges, payable_append] at payable
      obtain ⟨middle, log, made, invoked⟩ := first payable.1 state
      obtain ⟨after, later, others, further⟩ := inductionHypothesis payable.2 middle
      refine ⟨after, log ++ later, ?_, ?_⟩
      · simp only [watchItems_cons]
        rw [made, others]
        rfl
      · rw [invocations_append, invoked, further, List.flatMap_cons]

/-- A sequence that opens no scope is made of what its items make. -/
theorem sequence {nodes : List Node} {outcomes : List (Node × List (String × List Node))}
    (shape : Node.shape nodes = .sequence)
    (closed : engine.library.innerScope .global nodes = .global)
    (each : List.Forall₂ (fun node outcome => engine.Makes inputs node outcome.1 outcome.2)
      nodes outcomes) :
    engine.Makes inputs (.list nodes) (sequenceResult (outcomes.map Prod.fst))
      (outcomes.flatMap Prod.snd) := by
  refine of_watchList fun payable id state => ?_
  rw [charges, shape, closed, payable_append] at payable
  obtain ⟨after, log, reduced, invoked⟩ := items each payable.2 state
  refine ⟨after, log, ?_, invoked⟩
  rw [shape, watchList, closed, watchSequence, bind_ok reduced, gather_map_ok]
  simp only [pure_apply, List.append_nil]

end Makes

variable (inputs : Inputs)

/-- An endless balance that pays some amounts takes a program in some passes to its value, and some
functions and casters are invoked for it. It completes the program with these amounts alone. -/
structure Completes (program value : Node) (passes : Nat) (made : List (String × List Node))
    (amounts : List Float) : Prop where
  paid : Payable amounts → ∀ (limit : Nat) (first : Bool) (state : State),
    ∃ (after : State) (log : List Deed),
      engine.watchRounds inputs limit first program (state.holding endless) =
          ⟨.ok (if limit < passes then none else some value), after.holding endless, log⟩ ∧
        (passes ≤ limit → invocations log = made)
  payable : ∀ (limit : Nat) (first : Bool) (state : State) (result : Option Node),
    passes ≤ limit →
      ((engine.rounds inputs limit first program).on (state.holding endless)).1 = .ok result →
        Payable amounts

/-- Neither denesting nor leading forms touch a list that a name leads. -/
theorem watchPass_named {inputs : Inputs} (noArguments : inputs.argv = []) (first : Bool)
    (name : String) (rest : List Node) (state : State) :
    engine.watchPass inputs .global first (.list (.string name :: rest)) state =
      engine.watchBranch inputs .global (.list (.string name :: rest)) state := by
  have denested : Node.denest (.list (.string name :: rest)) = .list (.string name :: rest) := by
    cases rest <;> rfl
  have plain : joined inputs first (.string name :: rest) = .list (.string name :: rest) := by
    cases first <;> simp [joined, noArguments]
  have unclaimed : (engine.preprocess inputs (.string name :: rest)).on state =
      (.ok (.string name :: rest), state) := rfl
  rw [engine.watchPass_list inputs denested unclaimed, plain]

variable {engine inputs}

/-- A round makes what the pass makes and settles it. -/
theorem Makes.round {name : String} {rest : List Node} {reduced : Node}
    {made : List (String × List Node)} (noArguments : inputs.argv = [])
    (makes : engine.Makes inputs (.list (.string name :: rest)) reduced made) {settled : Settled}
    (settles : engine.settle (.list (.string name :: rest)) reduced = pure settled)
    (payable : Payable (engine.charges .global (.list (.string name :: rest)))) (first : Bool)
    (state : State) :
    ∃ (after : State) (log : List Deed),
      engine.watchRound inputs first (.list (.string name :: rest)) (state.holding endless) =
          ⟨.ok settled, after.holding endless, log⟩ ∧
        invocations log = made := by
  obtain ⟨after, log, passed, invoked⟩ := makes payable state
  rw [← engine.watchPass_named noArguments first] at passed
  refine ⟨after, log ++ [], ?_, by rw [List.append_nil, invoked]⟩
  rw [watchRound, bind_ok passed, settles]
  rfl

/-- A round that does not fail has paid the charges of its program. -/
theorem payable_of_round {name : String} {rest : List Node} (noArguments : inputs.argv = [])
    {first : Bool} {state after : State} {settled : Settled}
    (went : (engine.round inputs first (.list (.string name :: rest))).on
      (state.holding endless) = (.ok settled, after)) :
    Payable (engine.charges .global (.list (.string name :: rest))) := by
  obtain ⟨reduced, middle, passed, -⟩ := on_bind_eq_ok went
  have watched := engine.watchPass_named noArguments first name rest (state.holding endless)
  have branched := on_unwatched (engine.watchBranch inputs .global (.list (.string name :: rest)))
    (state.holding endless)
  rw [← watched, ← on_unwatched, unwatched_watchPass, passed, unwatched_watchBranch] at branched
  exact (engine.payable_of_branch inputs _ .global _ _ _ branched).1

/-- A round that makes another program leads on to its rounds. -/
theorem Makes.on_rounds_succ {name : String} {rest : List Node} {reduced next : Node}
    {made : List (String × List Node)} (noArguments : inputs.argv = [])
    (makes : engine.Makes inputs (.list (.string name :: rest)) reduced made)
    (settles : engine.settle (.list (.string name :: rest)) reduced = pure (.again next))
    (payable : Payable (engine.charges .global (.list (.string name :: rest)))) (limit : Nat)
    (first : Bool) (state : State) :
    ∃ after : State,
      (engine.rounds inputs (limit + 1) first (.list (.string name :: rest))).on
          (state.holding endless) =
        (engine.rounds inputs limit false next).on (after.holding endless) := by
  obtain ⟨after, log, went, -⟩ := makes.round noArguments settles payable first state
  have round := engine.unwatched_watchRound inputs first (.list (.string name :: rest))
  refine ⟨after, ?_⟩
  rw [rounds_succ, on_bind, ← round, on_unwatched, went]
  rfl

namespace Completes

/-- Amounts that are payable together may take each other's place. -/
theorem congr {program value : Node} {passes : Nat} {made : List (String × List Node)}
    {amounts others : List Float}
    (completes : engine.Completes inputs program value passes made amounts)
    (same : Payable amounts ↔ Payable others) :
    engine.Completes inputs program value passes made others :=
  ⟨fun payable => completes.paid (same.mpr payable),
    fun limit first state result enough ran =>
      same.mp (completes.payable limit first state result enough ran)⟩

/-- A program whose pass leaves a value takes one pass. -/
theorem last {name : String} {rest : List Node} {reduced value : Node}
    {made : List (String × List Node)} (noArguments : inputs.argv = [])
    (makes : engine.Makes inputs (.list (.string name :: rest)) reduced made)
    (settles : engine.settle (.list (.string name :: rest)) reduced = pure (.done value)) :
    engine.Completes inputs (.list (.string name :: rest)) value 1 made
      (engine.charges .global (.list (.string name :: rest))) where
  paid payable limit first state := by
    cases limit with
    | zero => exact ⟨state, [], rfl, fun enough => absurd enough (by omega)⟩
    | succ limit =>
        obtain ⟨after, log, settled, invoked⟩ := makes.round noArguments settles payable first state
        refine ⟨after, log ++ [], ?_, fun _ => by rw [List.append_nil, invoked]⟩
        rw [watchRounds, bind_ok settled, if_neg (by omega)]
        rfl
  payable limit first state result enough ran := by
    obtain ⟨limit, rfl⟩ := Nat.exists_eq_add_of_le' enough
    obtain ⟨settled, middle, went, -⟩ := on_bind_eq_ok (Prod.ext ran rfl)
    exact payable_of_round noArguments went

/-- A program whose pass leaves another one takes one pass more than that one. -/
theorem step {name : String} {rest : List Node} {reduced next value : Node} {passes : Nat}
    {made later : List (String × List Node)} {amounts : List Float}
    (noArguments : inputs.argv = [])
    (makes : engine.Makes inputs (.list (.string name :: rest)) reduced made)
    (settles : engine.settle (.list (.string name :: rest)) reduced = pure (.again next))
    (completes : engine.Completes inputs next value passes later amounts) :
    engine.Completes inputs (.list (.string name :: rest)) value (passes + 1) (made ++ later)
      (engine.charges .global (.list (.string name :: rest)) ++ amounts) where
  paid payable limit first state := by
    rw [payable_append] at payable
    cases limit with
    | zero =>
        refine ⟨state, [], ?_, fun enough => absurd enough (by omega)⟩
        rw [if_pos (by omega)]
        rfl
    | succ limit =>
        obtain ⟨middle, log, settled, invoked⟩ :=
          makes.round noArguments settles payable.1 first state
        obtain ⟨after, others, continued, further⟩ := completes.paid payable.2 limit false middle
        refine ⟨after, log ++ others, ?_, fun enough => ?_⟩
        · rw [watchRounds, bind_ok settled]
          dsimp only
          rw [continued]
          simp only [Nat.add_lt_add_iff_right]
        · rw [invocations_append, invoked, further (by omega)]
  payable limit first state result enough ran := by
    obtain ⟨limit, rfl⟩ := Nat.exists_eq_add_of_le' (Nat.le_of_add_left_le enough)
    obtain ⟨settled, middle, went, -⟩ := on_bind_eq_ok (Prod.ext ran rfl)
    have paid := payable_of_round noArguments went
    obtain ⟨after, continued⟩ := makes.on_rounds_succ noArguments settles paid limit first state
    rw [continued] at ran
    exact (payable_append _ _).mpr
      ⟨paid, completes.payable limit false after result (by omega) ran⟩

end Completes

end Engine

namespace Session

variable {session : Session} {inputs : Inputs} {program value : Node} {passes : Nat}
  {made : List (String × List Node)} {amounts : List Float}

/-- A session without a limit starts its rounds with the endless balance. -/
theorem opened_unlimited (program : Node) :
    session.engine.opened program (session.withBalance none).state =
      (session.engine.opened program session.state).holding endless :=
  session.engine.opened_withMeter program session.state ⟨endless, none⟩

/-- A run that can be paid takes the passes of its program to its value, and invokes what the
program does. -/
theorem run_completes
    (completes : session.engine.Completes inputs program value passes made amounts)
    (payable : Payable amounts) (limit : Nat) :
    ((session.withBalance none).run inputs limit program).1 =
        .ok (if limit < passes then none else some value) ∧
      (passes ≤ limit → invocations (session.engine.watchRun inputs limit program
        (session.withBalance none).state).log = made) := by
  have result := session.engine.on_unwatched_watchRun inputs limit program
    (session.withBalance none).state
  obtain ⟨after, log, ran, invoked⟩ :=
    completes.paid payable limit true (session.engine.opened program session.state)
  rw [← opened_unlimited] at ran
  rw [Watched.on_unwatched, Engine.watchRun, ran] at result
  refine ⟨(congrArg Prod.fst result).symm, fun enough => ?_⟩
  rw [Engine.watchRun, ran]
  exact invoked enough

/-- A run that reaches an end has paid the amounts of its program. -/
theorem payable_of_run
    (completes : session.engine.Completes inputs program value passes made amounts)
    {limit : Nat} (enough : passes ≤ limit) {result : Option Node}
    (ran : ((session.withBalance none).run inputs limit program).1 = .ok result) :
    Payable amounts := by
  rw [run_eq] at ran
  refine completes.payable limit true (session.engine.opened program session.state) result enough ?_
  rw [← opened_unlimited]
  exact ran

end Session

end Reduct
