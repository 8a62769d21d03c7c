import Reduct.Proofs.Schedule
import Reduct.Proofs.Transparency
import Reduct.Proofs.Unlimited
/-! This file shows that the order in which siblings are reduced does not matter to a pass that an
unlimited balance pays for, and that it does matter to a pass whose charges are too large. -/

namespace Reduct

/-- The answer of a function depends neither on the number of its step nor on the world. -/
def Function.Oblivious (function : Function) : Prop :=
  ∀ (call : Call) (id : Nat) (arguments : List Node) (left right : World),
    ((function.call call arguments).run left).1 =
      ((function.call { call with id := id } arguments).run right).1

def Library.Oblivious (library : Library) : Prop :=
  ∀ name scope function, library.function? name scope = some function → function.Oblivious

namespace Reduction

variable {α β : Type}

/-- Under the endless balance a steady reduction always has one result and counts a fixed number of
steps. -/
def Steady (reduction : Reduction α) (result : Except Error α) (steps : Nat) : Prop :=
  ∀ state : State, ∃ after : State,
    reduction.on (state.holding endless) = (result, after.holding endless) ∧
      after.counter = state.counter + steps

namespace Steady

theorem pure (value : α) : (Pure.pure value : Reduction α).Steady (.ok value) 0 :=
  fun state => ⟨state, rfl, rfl⟩

theorem note (entry : Note) : (Reduction.note entry).Steady (.ok ()) 0 :=
  fun state => ⟨state.noting entry, rfl, rfl⟩

theorem fail (error : Error) : (Reduction.fail error : Reduction α).Steady (.error error) 0 :=
  fun state => ⟨state.noting _, rfl, rfl⟩

theorem bind_ok {reduction : Reduction α} {next : α → Reduction β} {value : α}
    {result : Except Error β} {before later : Nat} (first : reduction.Steady (.ok value) before)
    (second : (next value).Steady result later) :
    (reduction >>= next).Steady result (before + later) := by
  intro state
  obtain ⟨middle, ran, counted⟩ := first state
  obtain ⟨after, ends, total⟩ := second middle
  refine ⟨after, ?_, by omega⟩
  rw [on_bind, ran]
  exact ends

theorem bind_error {reduction : Reduction α} {next : α → Reduction β} {error : Error} {steps : Nat}
    (first : reduction.Steady (.error error) steps) :
    (reduction >>= next).Steady (.error error) steps := by
  intro state
  obtain ⟨after, ran, counted⟩ := first state
  refine ⟨after, ?_, counted⟩
  rw [on_bind, ran]

/-- Two steady reductions in a row are steady, whether or not the first one fails. -/
theorem bind {reduction : Reduction α} {next : α → Reduction β} {first : Except Error α}
    {second : α → Except Error β} (before : reduction.Steady first 0)
    (after : ∀ value, (next value).Steady (second value) 0) :
    (reduction >>= next).Steady (first >>= second) 0 := by
  cases first with
  | error error => exact before.bind_error
  | ok value => exact before.bind_ok (after value)

theorem orFail (result : Except Error α) : (Reduction.orFail result).Steady result 0 := by
  cases result with
  | ok value => exact pure value
  | error error => exact fail error

theorem chargeAll {amounts : List Float} (payable : Payable amounts) (items : List Node) :
    (Reduction.chargeAll amounts items).Steady (.ok ()) 0 :=
  fun state => ⟨state, Engine.on_chargeAll_endless payable items state, rfl⟩

/-- An action whose answer is the same in all worlds is steady. -/
theorem perform {action : Action α} {result : Except Error α}
    (answers : ∀ world, (action.run world).1 = result) :
    (Reduction.perform action).Steady result 0 := by
  intro state
  obtain ⟨after, ends, counted⟩ :=
    orFail result { state with world := (action.run state.world).2 }
  refine ⟨after, ?_, counted⟩
  rw [on_perform]
  change (Reduction.orFail (action.run state.world).1).on _ = _
  rw [answers]
  exact ends

/-- Steady reductions that are run at some positions write their results there, and their steps add
up. -/
theorem runAt {reductions : List (Reduction Node)} {result : Nat → Except Error Node}
    {steps : Nat → Nat}
    (steady : ∀ (position : Nat) (reduction : Reduction Node),
      reductions[position]? = some reduction → reduction.Steady (result position) (steps position))
    (order : List Nat) (within : ∀ position ∈ order, position < reductions.length)
    (found : List (Except Error Node)) (state : State) :
    ∃ after : State,
      (Reduction.runAt reductions order found).run (state.holding endless) =
        (order.foldl (fun written position => written.set position (result position)) found,
          after.holding endless) ∧
      after.counter = state.counter + (order.map steps).sum := by
  induction order generalizing found state with
  | nil => exact ⟨state, rfl, rfl⟩
  | cons position later inductionHypothesis =>
      have bound := within position (.head later)
      have present : reductions[position]? = some reductions[position] :=
        List.getElem?_eq_getElem bound
      obtain ⟨middle, ran, counted⟩ := steady position _ present state
      obtain ⟨after, ends, total⟩ := inductionHypothesis
        (fun other member => within other (.tail position member))
        (found.set position (result position)) middle
      refine ⟨after, ?_, ?_⟩
      · rw [Reduction.runAt, present]
        change (Reduction.runAt reductions later (found.set position
          (reductions[position].on (state.holding endless)).1)).run
            (reductions[position].on (state.holding endless)).2 = _
        rw [ran]
        exact ends
      · rw [List.map_cons, List.sum_cons]
        omega

/-- Results that are written at positions stand there, and the others stay. -/
theorem getElem?_foldl_set (result : Nat → Except Error Node) (order : List Nat)
    (found : List (Except Error Node)) (position : Nat) :
    (order.foldl (fun written other => written.set other (result other)) found)[position]? =
      if position ∈ order ∧ position < found.length then some (result position)
      else found[position]? := by
  induction order generalizing found with
  | nil => simp
  | cons first later inductionHypothesis =>
      rw [List.foldl_cons, inductionHypothesis, List.length_set, List.getElem?_set]
      by_cases same : first = position
      · subst same
        by_cases inside : first < found.length <;> simp [inside]
      · have other : position ≠ first := fun equal => same equal.symm
        simp [same, other]

/-- Steady reductions are steady together, whatever order they are run in. -/
theorem runInOrder {reductions : List (Reduction Node)} {result : Nat → Except Error Node}
    {steps : Nat → Nat}
    (steady : ∀ (position : Nat) (reduction : Reduction Node),
      reductions[position]? = some reduction → reduction.Steady (result position) (steps position))
    {count : Nat} (length : reductions.length = count) {order : List Nat}
    (complete : order.Perm (List.range count)) :
    (Reduction.runInOrder order reductions).Steady
      ((Engine.gather ((List.range count).map result)).map Engine.sequenceResult)
      ((List.range count).map steps).sum := by
  subst length
  intro state
  have inside (position : Nat) : position ∈ order ↔ position < reductions.length := by
    rw [complete.mem_iff, List.mem_range]
  obtain ⟨after, ran, counted⟩ := runAt steady order (fun position => (inside position).mp)
    (unwritten reductions.length) state
  have written : order.foldl (fun written position => written.set position (result position))
      (unwritten reductions.length) = (List.range reductions.length).map result := by
    apply List.ext_getElem?
    intro position
    rw [getElem?_foldl_set]
    by_cases bound : position < reductions.length
    · simp [bound, inside, unwritten]
    · simp [bound, unwritten]
  refine ⟨after, ?_, ?_⟩
  · rw [on_runInOrder, ran, written]
  · rw [counted, (complete.map steps).sum_eq]

end Steady

end Reduction

namespace Engine

open Reduction

variable (engine : Engine) (inputs : Inputs)

theorem exists_steady_checkArity (scope : Scope) (name : String) (count : Nat) :
    ∃ result, (engine.checkArity scope name count).Steady result 0 := by
  obtain ⟨result, equal⟩ := engine.exists_checkArity_eq scope name count
  rw [equal]
  exact ⟨result, .orFail result⟩

theorem exists_steady_checkPurity (scope : Scope) (name : String) :
    ∃ result, (engine.checkPurity scope name).Steady result 0 := by
  obtain ⟨result, equal⟩ | ⟨entry, equal⟩ := engine.exists_checkPurity_eq scope name
  · rw [equal]
    exact ⟨result, .orFail result⟩
  · rw [equal]
    exact ⟨.ok (), .note entry⟩

theorem exists_steady_invokeOther (scope : Scope) (requested : String)
    (items arguments : List Node) :
    ∃ result, (engine.invokeOther scope requested items arguments).Steady result 0 := by
  obtain ⟨result, equal⟩ := engine.exists_invokeOther_eq scope requested items arguments
  rw [equal]
  exact ⟨result, .orFail result⟩

/-- A call of an oblivious function has one result, whatever the number of its step. -/
theorem exists_steady_callFunction (scope : Scope) (requested name : String) {function : Function}
    (oblivious : function.Oblivious) (items : List Node) (world : World) :
    ∃ result, ∀ id,
      (engine.callFunction inputs scope id requested name function items).Steady result 0 := by
  obtain ⟨arity, counted⟩ :=
    engine.exists_steady_checkArity scope name (engine.arguments scope items).length
  obtain ⟨purity, allowed⟩ := engine.exists_steady_checkPurity scope name
  let call : Call :=
    { id := 0, seed := engine.seed, name := requested, list := items, argv := inputs.argv,
      event := inputs.event, scope := scope }
  have answers (id : Nat) (other : World) :
      ((function.call { call with id := id } (engine.arguments scope items)).run other).1 =
        ((function.call call (engine.arguments scope items)).run world).1 :=
    (oblivious call id _ world other).symm
  exact ⟨_, fun id => .bind counted fun _ => .bind allowed fun _ => .perform (answers id)⟩

/-- A list that is no sequence has one result, whatever the number of its step. -/
theorem exists_steady_reduceList (oblivious : engine.library.Oblivious) (scope : Scope)
    (items : List Node) (shape : Node.Shape) (single : shape ≠ .sequence) (world : World) :
    ∃ result, ∀ id, (engine.reduceList inputs scope id items shape).Steady result 0 := by
  cases shape with
  | quote => exact ⟨_, fun _ => .pure _⟩
  | empty => exact ⟨_, fun _ => .pure _⟩
  | sequence => exact absurd rfl single
  | call requested =>
      simp only [reduceList]
      cases found : engine.resolve? scope requested with
      | some resolved =>
          obtain ⟨name, function⟩ := resolved
          exact engine.exists_steady_callFunction inputs scope requested name
            (oblivious name scope function (of_resolve? found)) items world
      | none =>
          obtain ⟨result, steady⟩ := engine.exists_steady_invokeOther scope requested items
            (engine.arguments scope items)
          exact ⟨result, fun _ => steady⟩

/-- A list counts one step more than what follows its bill. -/
theorem steady_branchIn_list {schedule : Schedule} {path : List Nat} {scope : Scope}
    {items : List Node} {result : Except Error Node} {steps : Nat}
    (billed : Payable (engine.bill scope items.length (Node.shape items)))
    (reduced : ∀ id, (engine.reduceListIn inputs schedule path scope id items
      (Node.shape items)).Steady result steps) :
    (engine.branchIn inputs schedule path scope (.list items)).Steady result (steps + 1) := by
  intro state
  have counted := engine.entered_counter scope items state
  have both : (chargeAll (engine.bill scope items.length (Node.shape items)) items >>= fun _ =>
      engine.reduceListIn inputs schedule path scope (state.counter + 1) items
        (Node.shape items)).Steady result (0 + steps) :=
    .bind_ok (.chargeAll billed items) (reduced (state.counter + 1))
  obtain ⟨after, ran, total⟩ := both (engine.entered scope items state)
  refine ⟨after, ?_, by omega⟩
  rw [branchIn_list, State.holding, entered_withMeter]
  exact ran

/-- A node has one result and counts one number of steps in every order. -/
theorem exists_steady_branchIn (oblivious : engine.library.Oblivious) (world : World)
    (node : Node) :
    ∀ scope, Payable (engine.charges scope node) → ∃ result steps, ∀ schedule path,
      (engine.branchIn inputs schedule path scope node).Steady result steps := by
  induction node using Node.listInduction with
  | other node other =>
      intro scope _
      refine ⟨.ok node, 0, fun schedule path state => ⟨state, ?_, rfl⟩⟩
      exact engine.branchIn_other inputs schedule path scope node other _
  | list items inductionHypothesis =>
      intro scope payable
      rw [charges, payable_append] at payable
      obtain ⟨billed, later⟩ := payable
      by_cases sequence : Node.shape items = .sequence
      · rw [sequence] at billed later
        -- The outcome of each position is chosen once, before any schedule is.
        have each (position : Nat) : ∃ result steps, ∀ item, items[position]? = some item →
            ∀ schedule path, (engine.branchIn inputs schedule path
              (engine.library.innerScope scope items) item).Steady result steps := by
          cases found : items[position]? with
          | none => exact ⟨.ok .null, 0, by simp⟩
          | some item =>
              have member := List.mem_of_getElem? found
              obtain ⟨result, steps, steady⟩ := inductionHypothesis item member
                (engine.library.innerScope scope items) fun amount charged =>
                  later amount ((engine.mem_itemCharges_iff _ items amount).mpr
                    ⟨item, member, charged⟩)
              refine ⟨result, steps, fun other equal => ?_⟩
              cases equal
              exact steady
        choose result steps steady using each
        refine ⟨(gather ((List.range items.length).map result)).map sequenceResult,
          ((List.range items.length).map steps).sum + 1, fun schedule path =>
          engine.steady_branchIn_list inputs (by rwa [sequence]) fun id => ?_⟩
        rw [sequence]
        refine Steady.runInOrder (fun position reduction found => ?_)
          (engine.length_itemsIn inputs schedule path _ items)
          (schedule.complete path items.length)
        rw [itemsIn_getElem?] at found
        obtain ⟨item, present, rfl⟩ := Option.map_eq_some_iff.mp found
        exact steady position item present schedule _
      · obtain ⟨result, steady⟩ := engine.exists_steady_reduceList inputs oblivious scope items
          (Node.shape items) sequence world
        refine ⟨result, 0 + 1, fun schedule path =>
          engine.steady_branchIn_list inputs billed fun id => ?_⟩
        rw [engine.reduceListIn_single inputs schedule path scope id items sequence]
        exact steady id

/-- A pass that the endless balance pays for has one result and one counter in every order. -/
theorem passIn_same (oblivious : engine.library.Oblivious) (first second : Schedule)
    (scope : Scope) (appendArgv : Bool) (program : Node) (state : State)
    (unlimited : state.holding endless = state)
    (payable : Payable (engine.passCharges inputs scope appendArgv program state)) :
    ((engine.passIn inputs first scope appendArgv program).on state).1 =
        ((engine.passIn inputs second scope appendArgv program).on state).1 ∧
      ((engine.passIn inputs first scope appendArgv program).on state).2.counter =
        ((engine.passIn inputs second scope appendArgv program).on state).2.counter := by
  by_cases null : program.isNull = true
  · simp [passIn, passBy, null]
  · cases denested : program.denest with
    | list items =>
      simp only [passIn, passBy, null, denested, id]
      simp only [passCharges, denested] at payable
      -- The leading forms are expanded before any order is chosen.
      rw [if_neg Bool.false_ne_true, if_neg Bool.false_ne_true, on_bind, on_bind]
      rcases expanding : (engine.preprocess inputs items).on state with ⟨error | expanded, middle⟩
      · exact ⟨rfl, rfl⟩
      · rw [expanding] at payable
        have meter : middle.holding endless = middle := by
          have kept := (engine.ignoresMeter_preprocess inputs items).meter_eq state
          rw [expanding, ← unlimited] at kept
          exact State.holding_of_meter kept
        obtain ⟨result, steps, steady⟩ :=
          engine.exists_steady_branchIn inputs oblivious state.world _ scope payable
        obtain ⟨firstEnd, firstRan, firstCount⟩ := steady first [] middle
        obtain ⟨secondEnd, secondRan, secondCount⟩ := steady second [] middle
        rw [meter] at firstRan secondRan
        dsimp only
        rw [firstRan, secondRan]
        exact ⟨rfl, firstCount.trans secondCount.symm⟩
    | null | bool value | number value | string text | map entries | quote inner =>
      simp [passIn, passBy, null, denested]

/-- A pass that an unlimited balance pays for gives the result and the counter of the pass from left
to right, whatever order is chosen in every list: all functions are oblivious, and no charge is
minus infinity or no number. -/
theorem pass_in_any_order (oblivious : engine.library.Oblivious) (schedule : Schedule)
    (scope : Scope) (appendArgv : Bool) (program : Node) (state : State)
    (unlimited : state.meter = .start none none state.world.now)
    (payable : Payable (engine.passCharges inputs scope appendArgv program state)) :
    let chosen := (engine.passIn inputs schedule scope appendArgv program).on state
    let usual := (engine.pass inputs scope appendArgv program).on state
    chosen.1 = usual.1 ∧ chosen.2.counter = usual.2.counter := by
  rw [← engine.passIn_leftToRight]
  exact engine.passIn_same inputs oblivious schedule .leftToRight scope appendArgv program state
    (State.holding_of_meter unlimited) payable

/-- A session in which the names `f` and `g` fail, with an amount for the items of sequences. -/
def failing (sequenceAmount : Float) : Session :=
  .start
    { function? := fun name _ =>
        if name = "f" ∨ name = "g" then some ⟨none, false, fun call _ => throw (.thrown call.name)⟩
        else none
      caster? := fun _ _ => none
      constant? := fun _ _ => none
      preprocessor? := fun _ _ => none
      price? := fun _ _ => none
      opensScope := fun _ _ => false }
    { sequenceAmount := sequenceAmount } .empty 0 0

theorem oblivious_failing (sequenceAmount : Float) :
    (failing sequenceAmount).engine.library.Oblivious := by
  intro name scope function found
  change (if name = "f" ∨ name = "g" then some _ else none) = some function at found
  split_ifs at found
  cases found
  exact fun _ _ _ _ _ => rfl

/-- Two calls that fail and a call of an unknown name. -/
def twoFailures : Node :=
  .list [.list [.string "f"], .list [.string "g"], .list [.string "h"]]

/-- Two siblings fail, and the error of the first one is kept when the second one is reduced before
it. -/
theorem failures_in_any_order :
    let session := failing (-1.0)
    let chosen := (session.engine.passIn ⟨[], none⟩ .rightToLeft .global true twoFailures).on
      session.state
    let usual := (session.engine.pass ⟨[], none⟩ .global true twoFailures).on session.state
    Payable (session.engine.passCharges ⟨[], none⟩ .global true twoFailures session.state) ∧
      chosen.1 = usual.1 ∧ chosen.2.counter = usual.2.counter := by
  intro session chosen usual
  have payable :
      Payable (session.engine.passCharges ⟨[], none⟩ .global true twoFailures session.state) := by
    unfold Payable
    decide +kernel
  exact ⟨payable, session.engine.pass_in_any_order ⟨[], none⟩ (oblivious_failing (-1.0))
    .rightToLeft .global true twoFailures session.state rfl payable⟩

/-- The number of items of the list for which there was no gas. -/
def refusedItems : Except Error Node → Option Nat
  | .error (.outOfGas (.list items)) => some items.length
  | _ => none

/-- A call of an unknown name beside a sequence of three items. -/
def callAndSequence : Node :=
  .list [.list [.string "h"], .list [.number 1.0, .number 2.0, .number 3.0]]

/-- A finite amount that overflows for three items ends an unlimited balance. The siblings that come
later then fail as well, and which ones these are depends on the order. -/
theorem overflow_in_other_order :
    let session := failing (-8e307)
    let chosen := (session.engine.passIn ⟨[], none⟩ .rightToLeft .global true callAndSequence).on
      session.state
    let usual := (session.engine.pass ⟨[], none⟩ .global true callAndSequence).on session.state
    session.engine.library.Oblivious ∧
      session.state.meter = .start none none session.state.world.now ∧ chosen.1 ≠ usual.1 := by
  intro session chosen usual
  have different : refusedItems chosen.1 ≠ refusedItems usual.1 := by decide +kernel
  exact ⟨oblivious_failing (-8e307), rfl, fun same => different (congrArg refusedItems same)⟩

end Engine

end Reduct
