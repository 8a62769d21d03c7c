import Reduct.Proofs.Bindings
import Reduct.Proofs.Lookup
import Reduct.Proofs.Run
import Reduct.Standard
/-! This file compares runs from states that differ in their notes and step numbers. The standard
library looks at neither, so such runs have one result. -/

namespace Reduct

/-- Two worlds that may differ in their notes. -/
structure World.Resembles (left right : World) : Prop where
  storage : left.storage = right.storage
  stream : left.stream = right.stream
  now : left.now = right.now

namespace Action

variable {α β : Type}

/-- Two actions that have one result in worlds that resemble each other, and leave such worlds. -/
def Resembles (left right : Action α) : Prop :=
  ∀ leftWorld rightWorld : World, leftWorld.Resembles rightWorld →
    (left.run leftWorld).1 = (right.run rightWorld).1 ∧
      (left.run leftWorld).2.Resembles (right.run rightWorld).2

namespace Resembles

theorem pure (value : α) : Resembles (Pure.pure value) (Pure.pure value) :=
  fun _ _ resembles => ⟨rfl, resembles⟩

theorem throw (error : Error) :
    Resembles (MonadExcept.throw error : Action α) (MonadExcept.throw error) :=
  fun _ _ resembles => ⟨rfl, resembles⟩

/-- The notes need not be the same. -/
theorem note (leftEntry rightEntry : Note) :
    Resembles (Action.note leftEntry) (Action.note rightEntry) :=
  fun _ _ resembles => ⟨rfl, resembles.storage, resembles.stream, resembles.now⟩

/-- What is read is no note. -/
theorem reading {read : World → α}
    (same : ∀ left right : World, left.Resembles right → read left = read right) :
    Resembles (do Pure.pure (read (← get)) : Action α) (do Pure.pure (read (← get))) :=
  fun left right resembles => ⟨congrArg Except.ok (same left right resembles), resembles⟩

theorem random : Resembles Action.random Action.random := by
  intro left right resembles
  change (Except.ok left.stream.next.1 : Except Error Float) = .ok right.stream.next.1 ∧
    World.Resembles { left with stream := left.stream.next.2 }
      { right with stream := right.stream.next.2 }
  rw [resembles.stream]
  exact ⟨rfl, resembles.storage, rfl, resembles.now⟩

theorem load? (path : String) : Resembles (Action.load? path) (Action.load? path) :=
  reading fun _ _ resembles => by rw [resembles.storage]

theorem store (path : String) (value : Node) :
    Resembles (Action.store path value) (Action.store path value) := by
  intro left right resembles
  cases stored : right.storage.set path value with
  | ok storage =>
      have run (world : World) (same : world.storage = right.storage) :
          (Action.store path value).run world = (.ok (), { world with storage := storage }) := by
        rw [Action.store, Action.run_get_bind, same, stored]
        rfl
      rw [run left resembles.storage, run right rfl]
      exact ⟨rfl, rfl, resembles.stream, resembles.now⟩
  | error error =>
      have run (world : World) (same : world.storage = right.storage) :
          (Action.store path value).run world = (.error error, world) := by
        rw [Action.store, Action.run_get_bind, same, stored]
        rfl
      rw [run left resembles.storage, run right rfl]
      exact ⟨rfl, resembles⟩

theorem bind {leftAction rightAction : Action α} {leftNext rightNext : α → Action β}
    (first : Resembles leftAction rightAction)
    (second : ∀ value, Resembles (leftNext value) (rightNext value)) :
    Resembles (leftAction >>= leftNext) (rightAction >>= rightNext) := by
  intro left right resembles
  have run (action : Action α) (next : α → Action β) (world : World) : (action >>= next).run world =
      ExceptT.bindCont next (action.run world).1 (action.run world).2 := rfl
  obtain ⟨result, after⟩ := first left right resembles
  rw [run, run]
  rcases leftEnd : leftAction.run left with ⟨leftResult, leftWorld⟩
  rcases rightEnd : rightAction.run right with ⟨rightResult, rightWorld⟩
  rw [leftEnd, rightEnd] at result after
  obtain rfl : leftResult = rightResult := result
  cases leftResult with
  | error error => exact ⟨rfl, after⟩
  | ok value => exact second value leftWorld rightWorld after

theorem lift (result : Except Error α) : Resembles (Action.lift result) (Action.lift result) := by
  cases result with
  | ok value => exact pure value
  | error error => exact throw error

theorem ofSource (result : Except Error α) :
    Resembles (Action.ofSource result) (Action.ofSource result) := by
  cases result with
  | ok value => exact pure value
  | error error =>
      unfold Action.ofSource
      dsimp only
      split
      · exact bind (note _ _) fun _ => throw error
      · exact throw error

end Resembles

end Action

/-- A function for which neither notes nor the step number of its call matter. -/
def Function.Heedless (function : Function) : Prop :=
  ∀ (call : Call) (id : Nat) (arguments : List Node),
    (function.call call arguments).Resembles (function.call { call with id := id } arguments)

/-- A preprocessor for which neither notes nor step numbers matter. -/
def Preprocessor.Heedless (preprocessor : Preprocessor) : Prop :=
  ∀ (context : Preprocessing) (id : Nat) (form program : List Node),
    (preprocessor context form program).Resembles
      (preprocessor { context with id := id } form program)

/-- A library of functions and preprocessors for which neither notes nor step numbers matter. -/
structure Library.Heedless (library : Library) : Prop where
  function : ∀ name scope function,
    library.function? name scope = some function → function.Heedless
  preprocessor : ∀ name scope preprocessor,
    library.preprocessor? name scope = some preprocessor → Preprocessor.Heedless preprocessor

/-- Two states that may differ in their notes and counters. -/
structure State.Resembles (left right : State) : Prop where
  world : left.world.Resembles right.world
  meter : left.meter = right.meter

namespace State.Resembles

variable {left right : State}

theorem refl (state : State) : state.Resembles state := ⟨⟨rfl, rfl, rfl⟩, rfl⟩

theorem trans {middle : State} (first : left.Resembles middle) (second : middle.Resembles right) :
    left.Resembles right :=
  ⟨⟨first.world.storage.trans second.world.storage, first.world.stream.trans second.world.stream,
    first.world.now.trans second.world.now⟩, first.meter.trans second.meter⟩

theorem symm (resembles : left.Resembles right) : right.Resembles left :=
  ⟨⟨resembles.world.storage.symm, resembles.world.stream.symm, resembles.world.now.symm⟩,
    resembles.meter.symm⟩

theorem noting (resembles : left.Resembles right) (leftEntry rightEntry : Note) :
    (left.noting leftEntry).Resembles (right.noting rightEntry) :=
  ⟨⟨resembles.world.storage, resembles.world.stream, resembles.world.now⟩, resembles.meter⟩

theorem withMeter (resembles : left.Resembles right) (meter : Meter) :
    (left.withMeter meter).Resembles (right.withMeter meter) :=
  ⟨resembles.world, rfl⟩

end State.Resembles

/-- A note leaves a state that resembles the one before it. -/
theorem State.resembles_noting (state : State) (entry : Note) :
    (state.noting entry).Resembles state :=
  ⟨⟨rfl, rfl, rfl⟩, rfl⟩

namespace Reduction

variable {α β : Type}

/-- Two outcomes with one result and states that resemble each other. -/
structure Agree (left right : Except Error α × State) : Prop where
  result : left.1 = right.1
  after : left.2.Resembles right.2

/-- Two reductions that agree in states that resemble each other. -/
def Resembles (left right : Reduction α) : Prop :=
  ∀ leftState rightState : State, leftState.Resembles rightState →
    Agree (left.on leftState) (right.on rightState)

/-- What follows two outcomes that agree need only agree for their result. -/
theorem Agree.bind {left right : Reduction α} {leftNext rightNext : α → Reduction β}
    {leftState rightState : State} (first : Agree (left.on leftState) (right.on rightState))
    (second : ∀ value after, left.on leftState = (.ok value, after) →
      Resembles (leftNext value) (rightNext value)) :
    Agree ((left >>= leftNext).on leftState) ((right >>= rightNext).on rightState) := by
  obtain ⟨result, after⟩ := first
  rw [on_bind, on_bind]
  rcases leftEnd : left.on leftState with ⟨leftResult, leftAfter⟩
  rcases rightEnd : right.on rightState with ⟨rightResult, rightAfter⟩
  rw [leftEnd, rightEnd] at result after
  obtain rfl : leftResult = rightResult := result
  cases leftResult with
  | error error => exact ⟨rfl, after⟩
  | ok value => exact second value leftAfter leftEnd leftAfter rightAfter after

namespace Resembles

theorem pure (value : α) : Resembles (Pure.pure value) (Pure.pure value) :=
  fun _ _ resembles => ⟨rfl, resembles⟩

theorem note (leftEntry rightEntry : Note) :
    Resembles (Reduction.note leftEntry) (Reduction.note rightEntry) :=
  fun _ _ resembles => ⟨rfl, resembles.noting leftEntry rightEntry⟩

theorem fail (error : Error) :
    Resembles (Reduction.fail error : Reduction α) (Reduction.fail error) :=
  fun _ _ resembles => ⟨rfl, resembles.noting _ _⟩

theorem bind {left right : Reduction α} {leftNext rightNext : α → Reduction β}
    (first : Resembles left right)
    (second : ∀ value, Resembles (leftNext value) (rightNext value)) :
    Resembles (left >>= leftNext) (right >>= rightNext) :=
  fun leftState rightState resembles =>
    (first leftState rightState resembles).bind fun value _ _ => second value

theorem orFail (result : Except Error α) :
    Resembles (Reduction.orFail result) (Reduction.orFail result) := by
  cases result with
  | ok value => exact pure value
  | error error => exact fail error

theorem perform {left right : Action α} (actions : left.Resembles right) :
    Resembles (Reduction.perform left) (Reduction.perform right) := by
  intro leftState rightState resembles
  obtain ⟨result, after⟩ := actions leftState.world rightState.world resembles.world
  rw [on_perform, on_perform, result]
  exact orFail _ _ _ ⟨after, resembles.meter⟩

/-- States that resemble each other have one clock and one meter. -/
theorem charge (amount : Float) (items : List Node) :
    Resembles (Reduction.charge amount items) (Reduction.charge amount items) := by
  intro left right resembles
  rw [on_charge, on_charge, ← resembles.meter, ← resembles.world.now]
  have paid := resembles.withMeter (left.meter.transact amount)
  split_ifs
  · exact ⟨rfl, paid⟩
  · exact ⟨rfl, paid.noting _ _⟩

theorem chargeAll (amounts : List Float) (items : List Node) :
    Resembles (Reduction.chargeAll amounts items) (Reduction.chargeAll amounts items) := by
  induction amounts with
  | nil => exact pure ()
  | cons amount rest inductionHypothesis =>
      exact bind (charge amount items) fun _ => inductionHypothesis

end Resembles

end Reduction

namespace Engine

open Reduction

variable (engine : Engine)

theorem resembles_checkArity (scope : Scope) (name : String) (count : Nat) :
    Resembles (engine.checkArity scope name count) (engine.checkArity scope name count) := by
  obtain ⟨result, equal⟩ := engine.exists_checkArity_eq scope name count
  rw [equal]
  exact .orFail result

theorem resembles_checkPurity (scope : Scope) (name : String) :
    Resembles (engine.checkPurity scope name) (engine.checkPurity scope name) := by
  obtain ⟨result, equal⟩ | ⟨entry, equal⟩ := engine.exists_checkPurity_eq scope name
  · rw [equal]
    exact .orFail result
  · rw [equal]
    exact .note entry entry

theorem resembles_invokeOther (scope : Scope) (requested : String) (items arguments : List Node) :
    Resembles (engine.invokeOther scope requested items arguments)
      (engine.invokeOther scope requested items arguments) := by
  obtain ⟨result, equal⟩ := engine.exists_invokeOther_eq scope requested items arguments
  rw [equal]
  exact .orFail result

theorem resembles_settle (program reduced : Node) :
    Resembles (engine.settle program reduced) (engine.settle program reduced) := by
  unfold settle
  split
  · exact .pure _
  · dsimp only
    split_ifs
    · exact .bind (.note _ _) fun _ => .pure _
    · exact .pure _
  · exact .pure _

/-- A step that is counted and announced leaves a state that resembles the one before it. -/
theorem resembles_entered (scope : Scope) (items : List Node) (state : State) :
    (engine.entered scope items state).Resembles state := by
  unfold entered
  split_ifs <;> exact ⟨⟨rfl, rfl, rfl⟩, rfl⟩

/-- The start of a run leaves a state that resembles the one before it. -/
theorem resembles_opened (program : Node) (state : State) :
    (engine.opened program state).Resembles state := by
  have noted (names : List String) (left : State) (resembles : left.Resembles state) :
      (names.foldl (fun state name => state.noting (.undefinedName name)) left).Resembles
        state := by
    induction names generalizing left with
    | nil => exact resembles
    | cons name rest inductionHypothesis =>
        exact inductionHypothesis _ ((left.resembles_noting _).trans resembles)
  have zeroed : ({ state with counter := 0 } : State).Resembles state := ⟨⟨rfl, rfl, rfl⟩, rfl⟩
  unfold opened
  split_ifs
  · exact noted _ _ zeroed
  · exact zeroed

variable {engine} (heedless : engine.library.Heedless) (inputs : Inputs)

/-- Items leave states that resemble each other when each of them does. -/
theorem resembles_reduceItems {scope : Scope} {items : List Node}
    (each : ∀ item ∈ items,
      Resembles (engine.branch inputs scope item) (engine.branch inputs scope item)) :
    Resembles (engine.reduceItems inputs scope items) (engine.reduceItems inputs scope items) := by
  have results (items : List Node)
      (each : ∀ item ∈ items,
        Resembles (engine.branch inputs scope item) (engine.branch inputs scope item))
      (left right : State) (resembles : left.Resembles right) :
      (engine.results inputs scope items left).1 = (engine.results inputs scope items right).1 ∧
        (engine.results inputs scope items left).2.Resembles
          (engine.results inputs scope items right).2 := by
    induction items generalizing left right with
    | nil =>
        rw [results_nil, results_nil]
        exact ⟨rfl, resembles⟩
    | cons item rest inductionHypothesis =>
        obtain ⟨result, middle⟩ := each item (.head rest) left right resembles
        obtain ⟨others, after⟩ := inductionHypothesis
          (fun other member => each other (.tail item member)) _ _ middle
        rw [results_cons, results_cons]
        exact ⟨congrArg₂ List.cons result others, after⟩
  intro left right resembles
  obtain ⟨same, after⟩ := results items each left right resembles
  rw [on_reduceItems, on_reduceItems, same]
  exact ⟨rfl, after⟩

include heedless

/-- The step numbers of two calls need not be the same. -/
theorem resembles_callFunction (scope : Scope) (id other : Nat) (requested name : String)
    {function : Function} (items : List Node)
    (found : engine.library.function? name scope = some function) :
    Resembles (engine.callFunction inputs scope id requested name function items)
      (engine.callFunction inputs scope other requested name function items) :=
  .bind (engine.resembles_checkArity scope name _) fun _ =>
    .bind (engine.resembles_checkPurity scope name) fun _ =>
      .perform (heedless.function name scope function found _ other _)

/-- Lists are reduced alike when their items are. -/
theorem resembles_reduceList (scope : Scope) (id other : Nat) (items : List Node)
    (shape : Node.Shape)
    (each : ∀ item ∈ items, ∀ inner,
      Resembles (engine.branch inputs inner item) (engine.branch inputs inner item)) :
    Resembles (engine.reduceList inputs scope id items shape)
      (engine.reduceList inputs scope other items shape) := by
  cases shape with
  | quote => exact .pure _
  | empty => exact .pure _
  | sequence => exact resembles_reduceItems inputs fun item member => each item member _
  | call requested =>
      simp only [Engine.reduceList]
      split
      · rename_i name function found
        exact resembles_callFunction heedless inputs scope id other requested name items
          (of_resolve? found)
      · exact engine.resembles_invokeOther scope requested items _

theorem resembles_branch (node : Node) :
    ∀ scope, Resembles (engine.branch inputs scope node) (engine.branch inputs scope node) := by
  induction node using Node.listInduction with
  | other node other =>
      intro scope left right resembles
      rw [engine.branch_other inputs scope node other, engine.branch_other inputs scope node other]
      exact ⟨rfl, resembles⟩
  | list items inductionHypothesis =>
      intro scope left right resembles
      have reduced : Resembles
          (chargeAll (engine.bill scope items.length (Node.shape items)) items >>= fun _ =>
            engine.reduceList inputs scope (left.counter + 1) items (Node.shape items))
          (chargeAll (engine.bill scope items.length (Node.shape items)) items >>= fun _ =>
            engine.reduceList inputs scope (right.counter + 1) items (Node.shape items)) :=
        .bind (.chargeAll _ items) fun _ =>
          resembles_reduceList heedless inputs scope _ _ items _ inductionHypothesis
      rw [branch_list, branch_list]
      exact reduced _ _ ((engine.resembles_entered scope items left).trans
        (resembles.trans (engine.resembles_entered scope items right).symm))

theorem heedless_leadingForms (program : List Node) :
    ∀ entry ∈ (engine.leadingForms program).1, Preprocessor.Heedless entry.1 := by
  intro entry member
  obtain ⟨name, bound⟩ := engine.exists_preprocessor?_of_mem program entry member
  exact heedless.preprocessor name .global entry.1 bound

theorem resembles_preprocess (program : List Node) :
    Resembles (engine.preprocess inputs program) (engine.preprocess inputs program) := by
  have expand (context : Preprocessing) (id : Nat) (forms : List (Preprocessor × List Node))
      (each : ∀ entry ∈ forms, Preprocessor.Heedless entry.1) (program : List Node) :
      Resembles (expandForms context forms program)
        (expandForms { context with id := id } forms program) := by
    induction forms generalizing program with
    | nil => exact .pure program
    | cons form later inductionHypothesis =>
        exact .bind (.perform (each form (.head later) _ id _ _)) fun expanded =>
          inductionHypothesis (fun entry member => each entry (.tail form member)) expanded
  have run (state : State) : (engine.preprocess inputs program).on state =
      (expandForms ⟨state.counter, engine.seed, inputs.argv, inputs.event⟩
        (engine.leadingForms program).1 (engine.leadingForms program).2).on state := rfl
  intro left right resembles
  rw [run, run]
  exact expand _ right.counter _ (heedless_leadingForms heedless program) _ left right resembles

theorem resembles_pass (scope : Scope) (appendArgv : Bool) (program : Node) :
    Resembles (engine.pass inputs scope appendArgv program)
      (engine.pass inputs scope appendArgv program) := by
  unfold Engine.pass
  by_cases null : program.isNull = true
  · rw [if_pos null]
    exact .fail _
  · rw [if_neg null]
    split
    · exact .bind (resembles_preprocess heedless inputs _) fun _ =>
        resembles_branch heedless inputs _ scope
    · exact .pure _

/-- Rounds from states that resemble each other agree. -/
theorem resembles_rounds (bound : Nat) (first : Bool) (program : Node) :
    Resembles (engine.rounds inputs bound first program)
      (engine.rounds inputs bound first program) := by
  induction bound generalizing first program with
  | zero => exact .pure none
  | succ bound inductionHypothesis =>
      rw [rounds_succ]
      refine .bind (.bind (resembles_pass heedless inputs .global first program) fun reduced =>
        engine.resembles_settle program reduced) fun settled => ?_
      cases settled with
      | done value => exact .pure (some value)
      | again next => exact inductionHypothesis false next

end Engine

namespace Binding

/-- A binding whose function or preprocessor is heedless of notes and step numbers. -/
abbrev Heedless (binding : Binding) : Prop :=
  binding.Holds Function.Heedless Preprocessor.Heedless

end Binding

namespace Standard

@[simp] theorem heedless_computes (name : String) (signature : Signature)
    (compute : List Node → Except Error Node) : (computes name signature compute).Heedless :=
  .function name fun _ _ arguments => .lift (compute arguments)

@[simp] theorem heedless_yields (name : String) (signature : Signature)
    (compute : List Node → Node) : (yields name signature compute).Heedless :=
  heedless_computes name signature _

@[simp] theorem heedless_aliasFunction (aliasName name : String) :
    (Binding.aliasFunction aliasName name).Heedless :=
  .aliasFunction aliasName name

theorem heedless_arithmetic : ∀ binding ∈ arithmetic, binding.Heedless := by
  have draw : (acts "math.rand" .nothing fun _ _ => do
      pure (.number (← Action.random))).Heedless :=
    .function _ fun _ _ _ => .bind .random fun _ => .pure _
  simpa [arithmetic, operators, comparisons, connectives, functionsOfNumbers, joint, binary,
    unary, comparison] using draw

/-- Only the printed note holds a step number. -/
theorem heedless_control : ∀ binding ∈ Standard.control, binding.Heedless := by
  have bound : (acts "let" (.ofTags ["string", "..."]) fun call _ =>
      Action.lift (bindName call.list)).Heedless :=
    .function _ fun _ _ _ => .lift _
  have reacting : (acts "event" (.ofTags ["string", "string", "list"]) fun call arguments =>
      Action.lift (react call.event arguments)).Heedless :=
    .function _ fun _ _ _ => .lift _
  have parsed : (acts "eval" (.ofTags ["string"]) fun _ arguments =>
      evaluate arguments).Heedless :=
    .function _ fun _ _ _ => .bind (.lift _) fun _ => .ofSource _
  have given : (acts "argv" .nothing fun call _ => pure (.quotedList call.argv)).Heedless :=
    .function _ fun _ _ _ => .pure _
  have printed : (actsImpurely "print" .any print).Heedless :=
    .function _ fun _ _ _ => .bind (.note _ _) fun _ => .pure _
  simp [Standard.control, bound, reacting, parsed, given, printed]

theorem heedless_clock : ∀ binding ∈ clock, binding.Heedless := by
  have displayed : (actsImpurely "time.now" .nothing fun _ _ => do
      pure (.string (Calendar.display (← get).now))).Heedless :=
    .function _ fun _ _ _ => .reading fun _ _ resembles => by rw [resembles.now]
  have counted : (actsImpurely "time.timestamp" .nothing fun _ _ => do
      pure (.number (Float.ofNat (← get).now))).Heedless :=
    .function _ fun _ _ _ => .reading fun _ _ resembles => by rw [resembles.now]
  rintro binding (_ | ⟨_, _ | ⟨_, ⟨⟩⟩⟩)
  · exact displayed
  · exact counted

theorem heedless_store : ∀ binding ∈ store, binding.Heedless := by
  have loaded : (actsImpurely "store.get" (.ofTags ["string"]) fun _ arguments => do
      let path ← Action.lift (textArgument arguments 0)
      pure (found (← Action.load? path))).Heedless :=
    .function _ fun _ _ _ => .bind (.lift _) fun path => .bind (.load? path) fun _ => .pure _
  have tested : (actsImpurely "store.has" (.ofTags ["string"]) fun _ arguments => do
      let path ← Action.lift (textArgument arguments 0)
      pure (.bool ((← get).storage.has path))).Heedless :=
    .function _ fun _ _ _ => .bind (.lift _) fun _ =>
      .reading fun _ _ resembles => by rw [resembles.storage]
  have stored : (actsImpurely "store.set" (.ofTags ["string", "*"]) fun _ arguments =>
      storeValue arguments).Heedless :=
    .function _ fun _ _ _ => .bind (.lift _) fun _ => .bind (.store _ _) fun _ => .pure _
  rintro binding (_ | ⟨_, _ | ⟨_, _ | ⟨_, ⟨⟩⟩⟩⟩)
  · exact loaded
  · exact tested
  · exact stored

theorem heedless_definitions : ∀ binding ∈ definitions, binding.Heedless := by
  intro binding member
  obtain rfl : binding = .preprocessor "define" expandDefinition := by
    simpa [definitions] using member
  exact .preprocessor _ fun _ _ _ _ =>
    .bind (.lift _) fun _ => .bind (.note _ _) fun _ => .pure _

/-- Every binding of the standard library is heedless of notes and step numbers. -/
theorem heedless_bindings : ∀ binding ∈ bindings, binding.Heedless := by
  have fixed : ∀ binding ∈ constants, binding.Heedless := by
    simp [constants, Binding.Holds.constant]
  have casting : ∀ binding ∈ casters, binding.Heedless := by
    simp [casters, casts, Binding.Holds.caster, Binding.Holds.aliasCaster]
  have closing : ∀ binding ∈ closures, binding.Heedless := by simp [closures]
  have listing : ∀ binding ∈ lists, binding.Heedless := by
    simp [lists, listFunctions, listMappers, mapper]
  have hashing : ∀ binding ∈ hashes, binding.Heedless := by simp [hashes]
  have wording : ∀ binding ∈ words, binding.Heedless := by simp [words, textual]
  have digesting : ∀ binding ∈ digests, binding.Heedless := by simp [digests, textual]
  simp only [bindings, List.forall_mem_append]
  exact ⟨⟨⟨⟨⟨⟨⟨⟨⟨⟨⟨fixed, casting⟩, heedless_arithmetic⟩, closing⟩, heedless_control⟩,
    heedless_definitions⟩, listing⟩, hashing⟩, wording⟩, digesting⟩, heedless_clock⟩,
    heedless_store⟩

theorem heedless_library : library.Heedless := by
  have holds : table.Holds Function.Heedless Preprocessor.Heedless :=
    Table.holds_bindAll heedless_bindings
  exact ⟨fun _ _ _ found => holds.function found, fun _ _ _ found => holds.preprocessor found⟩

end Standard

end Reduct
