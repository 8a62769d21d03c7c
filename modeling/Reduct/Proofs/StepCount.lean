import Reduct.Proofs.Transparency
import Reduct.Proofs.Unlimited
import Reduct.Proofs.Watch

namespace Reduct

namespace Node

/-- A quote form, the empty list or a call that is ready is one step. -/
def isOneStep (items : List Node) : Bool :=
  isQuoteForm items || items.isEmpty || (isInvocable items && isCallReady items)

theorem shape_eq_sequence_iff (items : List Node) :
    shape items = .sequence ↔ isOneStep items = false := by
  unfold shape isOneStep isInvocable
  cases isQuoteForm items with
  | true => simp
  | false =>
      cases headName? items <;> cases isCallReady items <;> cases items.isEmpty <;> simp

mutual

/-- The steps of a node: any other list adds one to the steps of its items. -/
def steps : Node → Nat
  | .list items => if isOneStep items then 1 else 1 + itemSteps items
  | _ => 0

def itemSteps : List Node → Nat
  | [] => 0
  | item :: rest => steps item + itemSteps rest

end

mutual

/-- The lists that are counted as steps after some count, from left to right and depth first. -/
def numbered : Nat → Node → List (Nat × List Node)
  | count, .list items =>
    (count + 1, items) :: if isOneStep items then [] else numberedItems (count + 1) items
  | _, _ => []

def numberedItems : Nat → List Node → List (Nat × List Node)
  | _, [] => []
  | count, item :: rest => numbered count item ++ numberedItems (count + steps item) rest

end

theorem steps_other (node : Node) (other : node.isList = false) : node.steps = 0 := by
  cases node with
  | list items => simp [isList] at other
  | _ => simp [steps]

theorem numbered_other (count : Nat) (node : Node) (other : node.isList = false) :
    node.numbered count = [] := by
  cases node with
  | list items => simp [isList] at other
  | _ => simp [numbered]

/-- The items of a list take the numbers that their steps take. -/
theorem numberedItems_fst (items : List Node)
    (each : ∀ item ∈ items, ∀ count,
      (item.numbered count).map Prod.fst = List.range' (count + 1) item.steps) (count : Nat) :
    (numberedItems count items).map Prod.fst = List.range' (count + 1) (itemSteps items) := by
  induction items generalizing count with
  | nil => simp [numberedItems, itemSteps]
  | cons item rest inductionHypothesis =>
      have others := inductionHypothesis (fun other member => each other (.tail item member))
      rw [numberedItems, itemSteps, List.map_append, each item (.head rest), others,
        ← List.range'_append_1, Nat.add_right_comm]

/-- The lists of a node take the numbers of its steps, one after another. -/
theorem numbered_fst (node : Node) : ∀ count,
    (node.numbered count).map Prod.fst = List.range' (count + 1) node.steps := by
  induction node using listInduction with
  | other node other =>
      intro count
      rw [numbered_other count node other, steps_other node other]
      rfl
  | list items inductionHypothesis =>
      intro count
      rw [numbered, steps, List.map_cons]
      cases isOneStep items with
      | true => rfl
      | false =>
          have inner := numberedItems_fst items inductionHypothesis (count + 1)
          simp [inner, Nat.add_comm 1, List.range'_succ]

end Node

namespace Deed

/-- The functions that are called in a log, in their order. -/
def calls (log : List Deed) : List Call :=
  log.filterMap fun deed =>
    match deed.act with
    | .call call _ => some call
    | _ => none

@[simp] theorem calls_append (first second : List Deed) :
    calls (first ++ second) = calls first ++ calls second :=
  List.filterMap_append

/-- The numbers and the lists of the calls in a log. -/
def numberedCalls (log : List Deed) : List (Nat × List Node) :=
  (calls log).map fun call => (call.id, call.list)

@[simp] theorem numberedCalls_append (first second : List Deed) :
    numberedCalls (first ++ second) = numberedCalls first ++ numberedCalls second := by
  simp [numberedCalls]

end Deed

open Deed

namespace Reduction

variable {α β : Type}

/-- A reduction that counts no step. -/
def KeepsCounter (reduction : Reduction α) : Prop :=
  ∀ state : State, (reduction.on state).2.counter = state.counter

namespace KeepsCounter

theorem pure (value : α) : (Pure.pure value : Reduction α).KeepsCounter := fun _ => rfl

theorem note (entry : Note) : (Reduction.note entry).KeepsCounter := fun _ => rfl

theorem bind {reduction : Reduction α} {next : α → Reduction β} (first : reduction.KeepsCounter)
    (second : ∀ value, (next value).KeepsCounter) : (reduction >>= next).KeepsCounter := by
  intro state
  have before := first state
  rw [on_bind]
  rcases outcome : reduction.on state with ⟨error | value, after⟩
  all_goals rw [outcome] at before
  · exact before
  · exact (second value after).trans before

theorem orFail (result : Except Error α) : (Reduction.orFail result).KeepsCounter := by
  cases result <;> exact fun _ => rfl

theorem perform (action : Action α) : (Reduction.perform action).KeepsCounter := by
  intro state
  rw [on_perform]
  exact orFail _ { state with world := (action.run state.world).2 }

end KeepsCounter

end Reduction

namespace Watched

/-- A part without deeds adds nothing to the log of the next one. -/
theorem log_silent_bind {α β : Type} (reduction : Reduction α) (next : α → Watched β)
    (state : State) :
    ((silent reduction >>= next) state).log = [] ∨
      ∃ value middle, ((silent reduction >>= next) state).log = (next value middle).log := by
  rcases outcome : reduction.on state with ⟨error | value, middle⟩
  · rw [silent_bind_error outcome]
    exact .inl rfl
  · rw [silent_bind outcome]
    exact .inr ⟨value, middle, rfl⟩

theorem numberedCalls_chargeAll (amounts : List Float) (items : List Node) (state : State) :
    numberedCalls (chargeAll amounts items state).log = [] := by
  induction amounts generalizing state with
  | nil => rfl
  | cons amount rest inductionHypothesis =>
      rw [chargeAll]
      cases paid : (state.meter.transact amount).ok state.world.now with
      | true =>
          rw [bind_ok (charge_paid paid items), numberedCalls_append, inductionHypothesis]
          rfl
      | false =>
          rw [bind_error (charge_refused paid items)]
          rfl

/-- Payable amounts are charged to the endless balance without a call. -/
theorem chargeAll_endless {amounts : List Float} (payable : Payable amounts) (items : List Node)
    (state : State) :
    ∃ log, chargeAll amounts items (state.holding endless) =
        ⟨.ok (), state.holding endless, log⟩ ∧ numberedCalls log = [] := by
  have paid := Engine.on_chargeAll_endless payable items state
  have none := numberedCalls_chargeAll amounts items (state.holding endless)
  rw [← unwatched_chargeAll, on_unwatched] at paid
  rcases outcome : chargeAll amounts items (state.holding endless) with ⟨result, after, log⟩
  rw [outcome] at paid none
  obtain ⟨rfl, rfl⟩ := Prod.mk.inj paid
  exact ⟨log, rfl, none⟩

/-- Under the endless balance a reduction counts a fixed number of steps, and its calls stand in
their order among some numbered lists. -/
def Counts {α : Type} (watched : Watched α) (steps : Nat) (lists : Nat → List (Nat × List Node)) :
    Prop :=
  ∀ state : State, ∃ (result : Except Error α) (after : State) (log : List Deed),
    watched (state.holding endless) = ⟨result, after.holding endless, log⟩ ∧
      after.counter = state.counter + steps ∧ (numberedCalls log).Sublist (lists state.counter)

end Watched

namespace Engine

open Reduction Watched

variable (engine : Engine) (inputs : Inputs)

theorem keepsCounter_preprocess (program : List Node) :
    (engine.preprocess inputs program).KeepsCounter := by
  have forms (context : Preprocessing) (forms : List (Preprocessor × List Node))
      (program : List Node) : (expandForms context forms program).KeepsCounter := by
    induction forms generalizing program with
    | nil => exact .pure program
    | cons form later inductionHypothesis =>
        exact .bind (.perform _) fun expanded => inductionHypothesis expanded
  exact fun state => forms _ (engine.leadingForms program).1 _ state

/-- A list that is no sequence counts no step once its charges are paid. -/
theorem keepsCounter_reduceList (scope : Scope) (id : Nat) (items : List Node)
    {shape : Node.Shape} (single : shape ≠ .sequence) :
    (engine.reduceList inputs scope id items shape).KeepsCounter := by
  cases shape with
  | quote => exact .pure _
  | call requested =>
      simp only [reduceList]
      split
      · rename_i name function _
        obtain ⟨arity, checked⟩ :=
          engine.exists_checkArity_eq scope name (engine.arguments scope items).length
        rw [callFunction, checked]
        refine .bind (.orFail arity) fun _ => .bind ?_ fun _ => .perform _
        obtain ⟨purity, checked⟩ | ⟨entry, noted⟩ := engine.exists_checkPurity_eq scope name
        · rw [checked]
          exact .orFail purity
        · rw [noted]
          exact .note entry
      · obtain ⟨result, other⟩ := engine.exists_invokeOther_eq scope requested items
          (engine.arguments scope items)
        rw [other]
        exact .orFail result
  | empty => exact .pure _
  | sequence => exact absurd rfl single

/-- A call is made with the number and the list it is given, if it is made at all. -/
theorem numberedCalls_watchCall (scope : Scope) (id : Nat) (requested : String)
    (items : List Node) (state : State) :
    (numberedCalls (engine.watchCall inputs scope id requested items state).log).Sublist
      [(id, items)] := by
  simp only [watchCall]
  cases engine.resolve? scope requested with
  | some found =>
      rcases log_silent_bind (engine.checkArity scope found.1 _) _ state with
        none | ⟨_, middle, same⟩
      · rw [none]
        exact List.nil_sublist _
      · rw [same]
        rcases log_silent_bind (engine.checkPurity scope found.1) _ middle with
          none | ⟨_, last, same⟩
        · rw [none]
          exact List.nil_sublist _
        · rw [same]
          exact List.Sublist.refl _
  | none => cases engine.library.caster? requested scope <;> exact List.nil_sublist _

/-- A list that is no sequence counts no further step and calls its own function at most. -/
theorem counts_watchList_single (scope : Scope) (id : Nat) (items : List Node)
    {shape : Node.Shape} (single : shape ≠ .sequence) :
    (engine.watchList inputs scope id items shape).Counts 0 fun _ => [(id, items)] := by
  intro state
  have calls : (numberedCalls (engine.watchList inputs scope id items shape
      (state.holding endless)).log).Sublist [(id, items)] := by
    cases shape with
    | sequence => exact absurd rfl single
    | call requested => exact engine.numberedCalls_watchCall inputs scope id requested items _
    | _ => exact List.nil_sublist _
  have ran : (engine.watchList inputs scope id items shape).unwatched.on (state.holding endless) =
      (((engine.reduceList inputs scope id items shape).on state).1,
        ((engine.reduceList inputs scope id items shape).on state).2.holding endless) := by
    rw [engine.unwatched_watchList inputs scope id items shape fun item _ inner =>
      engine.unwatched_watchBranch inputs item inner]
    exact engine.ignoresMeter_reduceList inputs scope id items shape single state ⟨endless, none⟩
  rw [on_unwatched] at ran
  rcases outcome : engine.watchList inputs scope id items shape (state.holding endless) with
    ⟨result, after, log⟩
  rw [outcome] at ran calls
  obtain ⟨rfl, rfl⟩ := Prod.mk.inj ran
  exact ⟨_, _, log, rfl, engine.keepsCounter_reduceList inputs scope id items single state, calls⟩

/-- Items count their steps one after another, whether or not an earlier one fails. -/
theorem counts_watchItems (scope : Scope) (items : List Node)
    (each : ∀ item ∈ items,
      (engine.watchBranch inputs scope item).Counts item.steps fun count => item.numbered count) :
    (engine.watchItems inputs scope items).Counts (Node.itemSteps items)
      fun count => Node.numberedItems count items := by
  induction items with
  | nil =>
      intro state
      rw [watchItems_nil]
      exact ⟨_, state, [], rfl, rfl, List.nil_sublist _⟩
  | cons item rest inductionHypothesis =>
      intro state
      obtain ⟨result, middle, log, first, counted, calls⟩ := each item (.head rest) state
      obtain ⟨results, after, later, others, total, further⟩ :=
        inductionHypothesis (fun other member => each other (.tail item member)) middle
      rw [watchItems_cons, first]
      dsimp only
      rw [others]
      refine ⟨_, after, log ++ later, rfl, ?_, ?_⟩
      · rw [Node.itemSteps]
        omega
      · rw [numberedCalls_append, Node.numberedItems, ← counted]
        exact calls.append further

theorem counts_watchSequence (scope : Scope) (items : List Node)
    (each : ∀ item ∈ items,
      (engine.watchBranch inputs scope item).Counts item.steps fun count => item.numbered count) :
    (engine.watchSequence inputs scope items).Counts (Node.itemSteps items)
      fun count => Node.numberedItems count items := by
  intro state
  obtain ⟨result, after, log, ran, counted, calls⟩ :=
    engine.counts_watchItems inputs scope items each state
  rw [watchSequence]
  cases result with
  | error error =>
      rw [bind_error ran]
      exact ⟨_, after, log, rfl, counted, calls⟩
  | ok results =>
      rw [bind_ok ran]
      cases gather results <;> exact ⟨_, after, log ++ [], rfl, counted, by simpa using calls⟩

theorem watchBranch_holding (scope : Scope) (items : List Node) (state : State)
    (balance : Float) :
    engine.watchBranch inputs scope (.list items) (state.holding balance) =
      (Watched.chargeAll (engine.bill scope items.length (Node.shape items)) items >>= fun _ =>
        engine.watchList inputs scope (state.counter + 1) items (Node.shape items))
          ((engine.entered scope items state).holding balance) := by
  rw [watchBranch_list, State.holding, entered_withMeter]
  rfl

/-- A list that is entered counts its steps and those of its items. -/
theorem watchList_counted (scope : Scope) (items : List Node)
    (each : Node.shape items = .sequence → ∀ item ∈ items,
      (engine.watchBranch inputs (engine.library.innerScope scope items) item).Counts item.steps
        fun count => item.numbered count) (state : State) :
    ∃ (result : Except Error Node) (after : State) (log : List Deed),
      engine.watchList inputs scope (state.counter + 1) items (Node.shape items)
          ((engine.entered scope items state).holding endless) =
        ⟨result, after.holding endless, log⟩ ∧
      after.counter = state.counter + (Node.list items).steps ∧
      (numberedCalls log).Sublist ((Node.list items).numbered state.counter) := by
  rw [Node.steps, Node.numbered]
  by_cases sequence : Node.shape items = .sequence
  · obtain ⟨result, after, log, ran, counted, calls⟩ := engine.counts_watchSequence inputs _ items
      (each sequence) (engine.entered scope items state)
    rw [entered_counter] at counted calls
    rw [sequence, (Node.shape_eq_sequence_iff items).mp sequence, if_neg Bool.false_ne_true]
    exact ⟨result, after, log, ran, by omega, calls.cons _⟩
  · obtain ⟨result, after, log, ran, counted, calls⟩ := engine.counts_watchList_single inputs
      scope (state.counter + 1) items sequence (engine.entered scope items state)
    rw [entered_counter] at counted
    rw [Node.shape_eq_sequence_iff, Bool.not_eq_false] at sequence
    rw [sequence]
    exact ⟨result, after, log, ran, counted, calls⟩

/-- A node counts its steps, and the calls in it are made with the numbers of their lists. -/
theorem counts_watchBranch (node : Node) :
    ∀ scope, Payable (engine.charges scope node) →
      (engine.watchBranch inputs scope node).Counts node.steps
        fun count => node.numbered count := by
  induction node using Node.listInduction with
  | other node other =>
      intro scope _ state
      rw [engine.watchBranch_other inputs scope node other, Node.steps_other node other]
      exact ⟨_, state, [], rfl, rfl, List.nil_sublist _⟩
  | list items inductionHypothesis =>
      intro scope payable state
      rw [charges, payable_append] at payable
      obtain ⟨billed, inner⟩ := payable
      obtain ⟨paid, charged, free⟩ :=
        chargeAll_endless billed items (engine.entered scope items state)
      -- The items of a sequence are payable as well, for their charges are among its own.
      have each (sequence : Node.shape items = .sequence) (item : Node) (member : item ∈ items) :
          Payable (engine.charges (engine.library.innerScope scope items) item) := by
        intro amount due
        rw [sequence] at inner
        exact inner amount ((engine.mem_itemCharges_iff _ items amount).mpr ⟨item, member, due⟩)
      obtain ⟨result, after, log, ran, counted, calls⟩ :=
        engine.watchList_counted inputs scope items (fun sequence item member =>
          inductionHypothesis item member _ (each sequence item member)) state
      refine ⟨result, after, paid ++ log, ?_, counted, ?_⟩
      · rw [watchBranch_holding, bind_ok charged, ran]
      · rw [numberedCalls_append, free]
        exact calls

/-- A pass that an unlimited balance pays for raises the counter by the steps of the list that it
reduces, whether or not it fails. The numbers of the calls rise, and each is the number of its list
from left to right and depth first. -/
theorem pass_counts_steps (scope : Scope) (appendArgv : Bool) (program : Node)
    (items expanded : List Node) (state middle : State)
    (unlimited : state.meter = .start none none state.world.now)
    (payable : Payable (engine.passCharges inputs scope appendArgv program state))
    (denested : program.denest = .list items)
    (preprocessed : (engine.preprocess inputs items).on state = (.ok expanded, middle)) :
    let full := joined inputs appendArgv expanded
    let made := calls (engine.watchPass inputs scope appendArgv program state).log
    ((engine.pass inputs scope appendArgv program).on state).2.counter =
        state.counter + full.steps ∧
      (made.map Call.id).Pairwise (· < ·) ∧
      (made.map fun call => (call.id, call.list)).Sublist (full.numbered state.counter) := by
  intro full made
  have meter := (engine.ignoresMeter_preprocess inputs items).meter_eq state
  have counter := engine.keepsCounter_preprocess inputs items state
  rw [preprocessed] at meter counter
  simp only [passCharges, denested, preprocessed] at payable
  obtain ⟨result, after, log, ran, counted, sublist⟩ :=
    engine.counts_watchBranch inputs full scope payable middle
  have endlessly : middle.holding endless = middle :=
    State.holding_of_meter (meter.trans unlimited)
  rw [endlessly, ← engine.watchPass_list inputs denested preprocessed] at ran
  rw [show middle.counter = state.counter from counter] at counted sublist
  have ids : made.map Call.id = (numberedCalls log).map Prod.fst := by
    simp [made, ran, numberedCalls]
  refine ⟨?_, ?_, ?_⟩
  · rw [← unwatched_watchPass, on_unwatched, ran]
    exact counted
  · have rising := sublist.map Prod.fst
    rw [Node.numbered_fst] at rising
    rw [ids]
    exact (List.pairwise_lt_range' _).sublist rising
  · change (numberedCalls (engine.watchPass inputs scope appendArgv program state).log).Sublist _
    rw [ran]
    exact sublist

/-- A session in which `f` fails and `g` returns a call, with an amount for each item of a
sequence. -/
def restless (sequenceAmount : Float) : Session :=
  .start
    { function? := fun name _ =>
        if name = "f" then some ⟨none, false, fun call _ => throw (.thrown call.name)⟩
        else if name = "g" then some ⟨none, false, fun _ _ => pure (.list [.string "f"])⟩
        else none
      caster? := fun _ _ => none
      constant? := fun _ _ => none
      preprocessor? := fun _ _ => none
      price? := fun _ _ => none
      opensScope := fun _ _ => false }
    { sequenceAmount := sequenceAmount } .empty 0 0

/-- A call that fails, a call inside another one, a quote form and the empty list. -/
def fourLists : List Node :=
  [.list [.string "f"], .list [.string "g", .list [.string "g"]],
    .list [.string "quote", .list [.string "f"]], .list []]

/-- The pass fails with its first item and still counts all six lists. The two calls that are ready
are the second and the fourth of them. -/
theorem fourLists_counted :
    let session := restless (-1.0)
    let outcome := (session.engine.pass ⟨[], none⟩ .global true (.list fourLists)).on session.state
    let made := calls
      (session.engine.watchPass ⟨[], none⟩ .global true (.list fourLists) session.state).log
    outcome.1.isOk = false ∧ (Node.list fourLists).steps = 6 ∧ made.map Call.id = [2, 4] ∧
      Payable (session.engine.passCharges ⟨[], none⟩ .global true (.list fourLists)
        session.state) ∧
      outcome.2.counter = session.state.counter + (Node.list fourLists).steps ∧
      (made.map Call.id).Pairwise (· < ·) ∧
      (made.map fun call => (call.id, call.list)).Sublist
        ((Node.list fourLists).numbered session.state.counter) := by
  intro session outcome made
  have payable : Payable (session.engine.passCharges ⟨[], none⟩ .global true (.list fourLists)
      session.state) := by
    unfold Payable
    decide +kernel
  exact ⟨by decide +kernel, by decide +kernel, by decide +kernel, payable,
    session.engine.pass_counts_steps ⟨[], none⟩ .global true (.list fourLists) fourLists fourLists
      session.state session.state rfl payable rfl rfl⟩

def threeCalls : Node :=
  .list [.list [.string "h"], .list [.string "h"], .list [.string "h"]]

/-- A finite amount that overflows for three items ends an unlimited balance. The pass then counts
the outer list alone. -/
theorem overflow_stops_counting :
    let session := restless (-1e308)
    let outcome := (session.engine.pass ⟨[], none⟩ .global true threeCalls).on session.state
    session.engine.settings.validate.isOk = true ∧
      session.state.meter = .start none none session.state.world.now ∧
      outcome.2.counter = session.state.counter + 1 ∧ threeCalls.steps = 4 := by
  intro session outcome
  exact ⟨by decide +kernel, rfl, by decide +kernel, by decide +kernel⟩

end Engine

end Reduct
