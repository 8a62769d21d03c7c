import Reduct.Proofs.Run
/-! This file compares two runs that differ in their stores. A run stays isolated when impure
functions are forbidden and the others neither see nor change the store. -/

namespace Reduct

namespace Action

variable {α β : Type}

/-- An isolated action gives one answer in all worlds with one random stream, and keeps the store.
It sees neither the clock nor the notes. -/
def Isolated (action : Action α) : Prop :=
  ∀ left right : World, left.stream = right.stream →
    (action.run left).1 = (action.run right).1 ∧
      (action.run left).2.stream = (action.run right).2.stream ∧
      (action.run left).2.storage = left.storage

namespace Isolated

theorem pure (value : α) : (Pure.pure value : Action α).Isolated :=
  fun _ _ same => ⟨rfl, same, rfl⟩

theorem throw (error : Error) : (MonadExcept.throw error : Action α).Isolated :=
  fun _ _ same => ⟨rfl, same, rfl⟩

theorem note (entry : Note) : (Action.note entry).Isolated :=
  fun _ _ same => ⟨rfl, same, rfl⟩

/-- A draw moves the stream on and leaves the store alone. -/
theorem random : Action.random.Isolated := by
  intro left right same
  change (Except.ok left.stream.next.1 : Except Error Float) = .ok right.stream.next.1 ∧
    left.stream.next.2 = right.stream.next.2 ∧ left.storage = left.storage
  rw [same]
  exact ⟨rfl, rfl, rfl⟩

theorem bind {action : Action α} {next : α → Action β} (first : action.Isolated)
    (second : ∀ value, (next value).Isolated) : (action >>= next).Isolated := by
  intro left right same
  have run (world : World) : (action >>= next).run world =
      ExceptT.bindCont next (action.run world).1 (action.run world).2 := rfl
  obtain ⟨result, stream, kept⟩ := first left right same
  rw [run, run]
  rcases leftEnd : action.run left with ⟨leftResult, leftWorld⟩
  rcases rightEnd : action.run right with ⟨rightResult, rightWorld⟩
  rw [leftEnd, rightEnd] at result stream
  rw [leftEnd] at kept
  obtain rfl : leftResult = rightResult := result
  cases leftResult with
  | error error => exact ⟨rfl, stream, kept⟩
  | ok value =>
      obtain ⟨answer, streams, keeps⟩ := second value leftWorld rightWorld stream
      exact ⟨answer, streams, keeps.trans kept⟩

theorem lift (result : Except Error α) : (Action.lift result).Isolated := by
  cases result with
  | ok value => exact pure value
  | error error => exact throw error

theorem ofSource (result : Except Error α) : (Action.ofSource result).Isolated := by
  cases result with
  | ok value => exact pure value
  | error error =>
      unfold Action.ofSource
      dsimp only
      split
      · exact bind (note _) fun _ => throw error
      · exact throw error

end Isolated

end Action

/-- A function that is not impure acts in isolation. -/
def Function.Isolated (function : Function) : Prop :=
  function.impure = false → ∀ call arguments, (function.call call arguments).Isolated

def Preprocessor.Isolated (preprocessor : Preprocessor) : Prop :=
  ∀ context form program, (preprocessor context form program).Isolated

/-- A library whose functions are impure or isolated, and whose preprocessors are isolated. -/
structure Library.Isolated (library : Library) : Prop where
  function : ∀ name scope function,
    library.function? name scope = some function → function.Isolated
  preprocessor : ∀ name scope preprocessor,
    library.preprocessor? name scope = some preprocessor → Preprocessor.Isolated preprocessor

/-- Two states without a deadline that may differ in their stores, clocks and notes. -/
structure State.Alike (left right : State) : Prop where
  stream : left.world.stream = right.world.stream
  meter : left.meter = right.meter
  counter : left.counter = right.counter
  timeless : left.meter.deadline = none

namespace State.Alike

variable {left right : State}

theorem noting (alike : left.Alike right) (leftEntry rightEntry : Note) :
    (left.noting leftEntry).Alike (right.noting rightEntry) :=
  ⟨alike.stream, alike.meter, alike.counter, alike.timeless⟩

theorem withMeter (alike : left.Alike right) (meter : Meter) (timeless : meter.deadline = none) :
    (left.withMeter meter).Alike (right.withMeter meter) :=
  ⟨alike.stream, rfl, alike.counter, timeless⟩

theorem withWorld (alike : left.Alike right) {leftWorld rightWorld : World}
    (stream : leftWorld.stream = rightWorld.stream) :
    ({ left with world := leftWorld } : State).Alike { right with world := rightWorld } :=
  ⟨stream, alike.meter, alike.counter, alike.timeless⟩

theorem withCounter (alike : left.Alike right) (counter : Nat) :
    ({ left with counter := counter } : State).Alike { right with counter := counter } :=
  ⟨alike.stream, alike.meter, rfl, alike.timeless⟩

end State.Alike

namespace Reduction

variable {α β : Type}

/-- Two outcomes with one result and states alike, the first of which keeps a store. -/
structure Matches (storage : Storage) (left right : Except Error α × State) : Prop where
  result : left.1 = right.1
  alike : left.2.Alike right.2
  kept : left.2.world.storage = storage

/-- An isolated reduction gives one result in states that are alike, and keeps the store. -/
def Isolated (reduction : Reduction α) : Prop :=
  ∀ left right : State, left.Alike right →
    Matches left.world.storage (reduction.on left) (reduction.on right)

namespace Isolated

theorem pure (value : α) : (Pure.pure value : Reduction α).Isolated :=
  fun _ _ alike => ⟨rfl, alike, rfl⟩

theorem throw (error : Error) : (MonadExcept.throw error : Reduction α).Isolated :=
  fun _ _ alike => ⟨rfl, alike, rfl⟩

theorem note (entry : Note) : (Reduction.note entry).Isolated :=
  fun _ _ alike => ⟨rfl, alike.noting entry entry, rfl⟩

theorem fail (error : Error) : (Reduction.fail error : Reduction α).Isolated :=
  fun _ _ alike => ⟨rfl, alike.noting _ _, rfl⟩

/-- What follows a failure does not matter. -/
theorem fail_bind (error : Error) (next : α → Reduction β) :
    (Reduction.fail error >>= next).Isolated := by
  intro left right alike
  rw [on_bind, on_bind, on_fail, on_fail]
  exact ⟨rfl, alike.noting _ _, rfl⟩

theorem bind {reduction : Reduction α} {next : α → Reduction β} (first : reduction.Isolated)
    (second : ∀ value, (next value).Isolated) : (reduction >>= next).Isolated := by
  intro left right alike
  obtain ⟨result, middle, kept⟩ := first left right alike
  rw [on_bind, on_bind]
  rcases leftEnd : reduction.on left with ⟨leftResult, leftState⟩
  rcases rightEnd : reduction.on right with ⟨rightResult, rightState⟩
  rw [leftEnd, rightEnd] at result middle
  rw [leftEnd] at kept
  obtain rfl : leftResult = rightResult := result
  cases leftResult with
  | error error => exact ⟨rfl, middle, kept⟩
  | ok value =>
      obtain ⟨answer, after, keeps⟩ := second value leftState rightState middle
      exact ⟨answer, after, keeps.trans kept⟩

theorem orFail (result : Except Error α) : (Reduction.orFail result).Isolated := by
  cases result with
  | ok value => exact pure value
  | error error => exact fail error

/-- An isolated action is an isolated reduction. -/
theorem perform {action : Action α} (isolated : action.Isolated) :
    (Reduction.perform action).Isolated := by
  intro left right alike
  obtain ⟨result, stream, kept⟩ := isolated left.world right.world alike.stream
  obtain ⟨answer, after, keeps⟩ := orFail (action.run left.world).1 _ _ (alike.withWorld stream)
  rw [on_perform, on_perform, ← result]
  exact ⟨answer, after, keeps.trans kept⟩

/-- Without a deadline a charge depends on the balance alone. -/
theorem charge (amount : Float) (items : List Node) : (Reduction.charge amount items).Isolated := by
  intro left right alike
  have clock (now : Nat) : (left.meter.transact amount).ok now =
      decide (0.0 < left.meter.balance + amount) := by
    rw [Meter.ok, Meter.transact, alike.timeless, Option.all_none, Bool.and_true]
  rw [on_charge, on_charge, ← alike.meter, clock, clock]
  have paid := alike.withMeter (left.meter.transact amount) alike.timeless
  split_ifs
  · exact ⟨rfl, paid, rfl⟩
  · exact ⟨rfl, paid.noting _ _, rfl⟩

theorem chargeAll (amounts : List Float) (items : List Node) :
    (Reduction.chargeAll amounts items).Isolated := by
  induction amounts with
  | nil => exact pure ()
  | cons amount rest inductionHypothesis =>
      exact bind (charge amount items) fun _ => inductionHypothesis

end Isolated

end Reduction

namespace Engine

open Reduction

/-- An engine forbids impure functions, and its library is isolated otherwise. -/
structure Isolates (engine : Engine) : Prop where
  forbids : engine.settings.allowImpure = false
  library : engine.library.Isolated

variable (engine : Engine)

theorem isolated_checkArity (scope : Scope) (name : String) (count : Nat) :
    (engine.checkArity scope name count).Isolated := by
  obtain ⟨result, equal⟩ := engine.exists_checkArity_eq scope name count
  rw [equal]
  exact .orFail result

theorem isolated_invokeOther (scope : Scope) (requested : String) (items arguments : List Node) :
    (engine.invokeOther scope requested items arguments).Isolated := by
  obtain ⟨result, equal⟩ := engine.exists_invokeOther_eq scope requested items arguments
  rw [equal]
  exact .orFail result

theorem isolated_settle (program reduced : Node) : (engine.settle program reduced).Isolated := by
  unfold settle
  split
  · exact .pure _
  · dsimp only
    split_ifs
    · exact .bind (.note _) fun _ => .pure _
    · exact .pure _
  · exact .pure _

/-- The states in which a list is reduced are alike again. -/
theorem alike_entered (scope : Scope) (items : List Node) {left right : State}
    (alike : left.Alike right) :
    (engine.entered scope items left).Alike (engine.entered scope items right) := by
  have counted := alike.withCounter (left.counter + 1)
  rw [entered, entered, ← alike.counter]
  split_ifs
  · exact counted.noting _ _
  · exact counted

@[simp] theorem entered_storage (scope : Scope) (items : List Node) (state : State) :
    (engine.entered scope items state).world.storage = state.world.storage := by
  unfold entered
  split_ifs <;> rfl

/-- Items are reduced in isolation when each of them is. -/
theorem isolated_reduceItems {engine : Engine} {inputs : Inputs} {scope : Scope} {items : List Node}
    (each : ∀ item ∈ items, (engine.branch inputs scope item).Isolated) :
    (engine.reduceItems inputs scope items).Isolated := by
  have results (items : List Node)
      (each : ∀ item ∈ items, (engine.branch inputs scope item).Isolated) (left right : State)
      (alike : left.Alike right) :
      (engine.results inputs scope items left).1 = (engine.results inputs scope items right).1 ∧
        (engine.results inputs scope items left).2.Alike
          (engine.results inputs scope items right).2 ∧
        (engine.results inputs scope items left).2.world.storage = left.world.storage := by
    induction items generalizing left right with
    | nil =>
        rw [results_nil, results_nil]
        exact ⟨rfl, alike, rfl⟩
    | cons item rest inductionHypothesis =>
        obtain ⟨result, middle, kept⟩ := each item (.head rest) left right alike
        obtain ⟨others, after, keeps⟩ := inductionHypothesis
          (fun other member => each other (.tail item member)) _ _ middle
        rw [results_cons, results_cons]
        exact ⟨congrArg₂ List.cons result others, after, keeps.trans kept⟩
  intro left right alike
  obtain ⟨same, after, kept⟩ := results items each left right alike
  rw [on_reduceItems, on_reduceItems, same]
  exact ⟨rfl, after, kept⟩

/-- A run starts from states that are alike whatever their counters were. -/
theorem alike_opened (program : Node) {left right : State}
    (stream : left.world.stream = right.world.stream) (meter : left.meter = right.meter)
    (timeless : left.meter.deadline = none) :
    (engine.opened program left).Alike (engine.opened program right) ∧
      (engine.opened program left).world.storage = left.world.storage := by
  have noted (names : List String) (left right : State) (alike : left.Alike right) :
      (names.foldl (fun state name => state.noting (.undefinedName name)) left).Alike
          (names.foldl (fun state name => state.noting (.undefinedName name)) right) ∧
        (names.foldl (fun state name => state.noting (.undefinedName name)) left).world.storage =
          left.world.storage := by
    induction names generalizing left right with
    | nil => exact ⟨alike, rfl⟩
    | cons name rest inductionHypothesis => exact inductionHypothesis _ _ (alike.noting _ _)
  have zeroed : ({ left with counter := 0 } : State).Alike { right with counter := 0 } :=
    ⟨stream, meter, rfl, timeless⟩
  unfold opened
  split_ifs
  · exact noted _ _ _ zeroed
  · exact ⟨zeroed, rfl⟩

namespace Isolates

variable {engine} (isolates : engine.Isolates) (inputs : Inputs)

include isolates

/-- A function is called in isolation, or refused when it is impure. -/
theorem callFunction (scope : Scope) (id : Nat) (requested name : String) (function : Function)
    (items : List Node) (found : engine.library.function? name scope = some function) :
    (engine.callFunction inputs scope id requested name function items).Isolated := by
  refine .bind (engine.isolated_checkArity scope name _) fun _ => ?_
  have impure : engine.library.isImpure name scope = function.impure := by
    rw [Library.isImpure, found, Option.any_some]
  unfold checkPurity
  rw [impure, isolates.forbids]
  cases equal : function.impure with
  | true => exact .fail_bind _ _
  | false =>
      exact .bind (.pure ()) fun _ =>
        .perform (isolates.library.function name scope function found equal _ _)

/-- A list is reduced in isolation when its items are. -/
theorem reduceList (scope : Scope) (id : Nat) (items : List Node) (shape : Node.Shape)
    (each : ∀ item ∈ items, ∀ inner, (engine.branch inputs inner item).Isolated) :
    (engine.reduceList inputs scope id items shape).Isolated := by
  cases shape with
  | quote => exact .pure _
  | empty => exact .pure _
  | sequence => exact isolated_reduceItems fun item member => each item member _
  | call requested =>
      simp only [Engine.reduceList]
      split
      · rename_i name function found
        exact isolates.callFunction inputs scope id requested name function items
          (of_resolve? found)
      · exact engine.isolated_invokeOther scope requested items _

theorem branch (node : Node) : ∀ scope, (engine.branch inputs scope node).Isolated := by
  induction node using Node.listInduction with
  | other node other =>
      intro scope left right alike
      rw [engine.branch_other inputs scope node other, engine.branch_other inputs scope node other]
      exact ⟨rfl, alike, rfl⟩
  | list items inductionHypothesis =>
      intro scope left right alike
      have reduced : (chargeAll (engine.bill scope items.length (Node.shape items)) items >>=
          fun _ => engine.reduceList inputs scope (left.counter + 1) items
            (Node.shape items)).Isolated :=
        .bind (.chargeAll _ items) fun _ =>
          isolates.reduceList inputs scope _ items _ inductionHypothesis
      have entered := reduced _ _ (engine.alike_entered scope items alike)
      rw [entered_storage] at entered
      rw [branch_list, branch_list, ← alike.counter]
      exact entered

theorem leadingForms (program : List Node) :
    ∀ entry ∈ (engine.leadingForms program).1, Preprocessor.Isolated entry.1 := by
  intro entry member
  obtain ⟨name, bound⟩ := engine.exists_preprocessor?_of_mem program entry member
  exact isolates.library.preprocessor name .global entry.1 bound

theorem preprocess (program : List Node) : (engine.preprocess inputs program).Isolated := by
  have expand (context : Preprocessing) (forms : List (Preprocessor × List Node))
      (each : ∀ entry ∈ forms, Preprocessor.Isolated entry.1) (program : List Node) :
      (expandForms context forms program).Isolated := by
    induction forms generalizing program with
    | nil => exact .pure program
    | cons form later inductionHypothesis =>
        exact .bind (.perform (each form (.head later) _ _ _)) fun expanded =>
          inductionHypothesis (fun entry member => each entry (.tail form member)) expanded
  have run (state : State) : (engine.preprocess inputs program).on state =
      (expandForms ⟨state.counter, engine.seed, inputs.argv, inputs.event⟩
        (engine.leadingForms program).1 (engine.leadingForms program).2).on state := rfl
  intro left right alike
  rw [run, run, ← alike.counter]
  exact expand _ _ (isolates.leadingForms program) _ left right alike

theorem pass (scope : Scope) (appendArgv : Bool) (program : Node) :
    (engine.pass inputs scope appendArgv program).Isolated := by
  unfold Engine.pass
  by_cases null : program.isNull = true
  · rw [if_pos null]
    exact .fail _
  · rw [if_neg null]
    split
    · exact .bind (isolates.preprocess inputs _) fun _ => isolates.branch inputs _ scope
    · exact .pure _

theorem round (first : Bool) (program : Node) : (engine.round inputs first program).Isolated :=
  .bind (isolates.pass inputs .global first program) fun reduced =>
    engine.isolated_settle program reduced

/-- What one round keeps, all rounds keep. -/
theorem rounds (bound : Nat) (first : Bool) (program : Node) :
    (engine.rounds inputs bound first program).Isolated := by
  induction bound generalizing first program with
  | zero => exact .pure none
  | succ bound inductionHypothesis =>
      rw [rounds_succ]
      refine .bind (isolates.round inputs first program) fun settled => ?_
      cases settled with
      | done value => exact .pure (some value)
      | again next => exact inductionHypothesis false next

/-- A run in isolation ends alike and keeps the store, whatever its store and counter were. -/
theorem run (bound : Nat) (program : Node) {left right : State}
    (stream : left.world.stream = right.world.stream) (meter : left.meter = right.meter)
    (timeless : left.meter.deadline = none) :
    Matches left.world.storage ((engine.run inputs bound program).on left)
      ((engine.run inputs bound program).on right) := by
  obtain ⟨alike, kept⟩ := engine.alike_opened program stream meter timeless
  rw [on_run, on_run, ← kept]
  exact isolates.rounds inputs bound true program _ _ alike

end Isolates

end Engine

end Reduct
