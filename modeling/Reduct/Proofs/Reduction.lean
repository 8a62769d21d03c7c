import Mathlib.Tactic
import Reduct.Session

namespace Reduct

namespace State

def noting (state : State) (entry : Note) : State :=
  { state with world := state.world.noting entry }

def withMeter (state : State) (meter : Meter) : State :=
  { state with meter := meter }

@[simp] theorem withMeter_meter (state : State) (meter : Meter) :
    (state.withMeter meter).meter = meter := rfl

@[simp] theorem withMeter_self (state : State) : state.withMeter state.meter = state := rfl

end State

namespace Reduction

variable {α β : Type}

/-- What a reduction yields in a state, and the state after it. -/
def on (reduction : Reduction α) (state : State) : Except Error α × State :=
  reduction.run state

/-- Reductions that do the same in every state are equal. -/
theorem ext_on {first second : Reduction α}
    (same : ∀ state, first.on state = second.on state) : first = second :=
  funext same

@[simp] theorem on_pure (value : α) (state : State) :
    (pure value : Reduction α).on state = (.ok value, state) := rfl

@[simp] theorem on_throw (error : Error) (state : State) :
    (throw error : Reduction α).on state = (.error error, state) := rfl

/-- The second reduction runs in the state that the first one leaves, unless that one fails. -/
theorem on_bind (reduction : Reduction α) (next : α → Reduction β) (state : State) :
    (reduction >>= next).on state =
      match reduction.on state with
      | (.ok value, after) => (next value).on after
      | (.error error, after) => (.error error, after) := by
  change ExceptT.bindCont next (reduction.on state).1 (reduction.on state).2 = _
  rcases reduction.on state with ⟨_ | _, _⟩ <;> rfl

/-- A reduction of two parts succeeds when both of them do. -/
theorem on_bind_eq_ok {reduction : Reduction α} {next : α → Reduction β} {state final : State}
    {result : β} (succeeds : (reduction >>= next).on state = (.ok result, final)) :
    ∃ value middle, reduction.on state = (.ok value, middle) ∧
      (next value).on middle = (.ok result, final) := by
  rw [on_bind] at succeeds
  rcases equal : reduction.on state with ⟨error | value, middle⟩
  · rw [equal] at succeeds
    simp at succeeds
  · rw [equal] at succeeds
    exact ⟨value, middle, rfl, succeeds⟩

@[simp] theorem on_note (entry : Note) (state : State) :
    (note entry).on state = (.ok (), state.noting entry) := rfl

@[simp] theorem on_fail (error : Error) (state : State) :
    (fail error : Reduction α).on state =
      (.error error, state.noting (.reductionFailed error)) := rfl

@[simp] theorem on_nextStep (state : State) :
    nextStep.on state = (.ok (state.counter + 1), { state with counter := state.counter + 1 }) :=
  rfl

/-- The amount is added first, and then the meter is asked. -/
theorem on_charge (amount : Float) (items : List Node) (state : State) :
    (charge amount items).on state =
      if (state.meter.transact amount).ok state.world.now then
        (.ok (), state.withMeter (state.meter.transact amount))
      else
        (.error (.outOfGas (.list items)),
          (state.withMeter (state.meter.transact amount)).noting
            (.reductionFailed (.outOfGas (.list items)))) := by
  change (if (state.meter.transact amount).ok state.world.now then (pure () : Reduction Unit)
    else fail (.outOfGas (.list items))).on (state.withMeter (state.meter.transact amount)) = _
  split_ifs <;> rfl

def chargeAll : List Float → List Node → Reduction Unit
  | [], _ => pure ()
  | amount :: rest, items => do
    charge amount items
    chargeAll rest items

/-- An action sees and changes the world alone. -/
theorem on_perform (action : Action α) (state : State) :
    (perform action).on state =
      (orFail (action.run state.world).1).on { state with world := (action.run state.world).2 } :=
  rfl

/-- A result that does not fail is the result. -/
theorem of_on_orFail_eq_ok {result : Except Error α} {state after : State} {value : α}
    (succeeds : (orFail result).on state = (.ok value, after)) : result = .ok value := by
  cases result with
  | error error => cases succeeds
  | ok other =>
      cases succeeds
      rfl

end Reduction

namespace Node

/-- A property of all nodes follows from the nodes that are no lists and from the items of lists. -/
theorem listInduction {motive : Node → Prop}
    (other : ∀ node : Node, node.isList = false → motive node)
    (list : ∀ items : List Node, (∀ item ∈ items, motive item) → motive (.list items)) :
    ∀ node, motive node
  | .list items => list items fun item _ => listInduction other list item
  | .null => other .null rfl
  | .bool value => other (.bool value) rfl
  | .number value => other (.number value) rfl
  | .string text => other (.string text) rfl
  | .map entries => other (.map entries) rfl
  | .quote inner => other (.quote inner) rfl

/-- What a pass does with a list. -/
inductive Shape where
  | quote
  | call (requested : String)
  | empty
  | sequence

/-- A list is a quote form, a call that is ready, empty, or a sequence. -/
def shape (items : List Node) : Shape :=
  if isQuoteForm items then .quote
  else
    match headName? items, isCallReady items with
    | some requested, true => .call requested
    | _, _ => if items.isEmpty then .empty else .sequence

@[simp] theorem shape_nil : shape [] = .empty := rfl

/-- Only the list without items is empty. -/
theorem shape_eq_empty_iff (items : List Node) : shape items = .empty ↔ items = [] := by
  constructor
  · intro equal
    unfold shape at equal
    split at equal
    · cases equal
    · split at equal
      · cases equal
      · split at equal
        · rename_i empty
          exact List.isEmpty_iff.mp empty
        · cases equal
  · rintro rfl
    rfl

/-- A call has a name that is no quote name and arguments that are values. -/
theorem of_shape_eq_call {items : List Node} {requested : String}
    (equal : shape items = .call requested) :
    headName? items = some requested ∧ isCallReady items = true ∧ isQuoteForm items = false := by
  unfold shape at equal
  split at equal
  · cases equal
  · rename_i quoted
    split at equal
    · rename_i head ready
      cases equal
      exact ⟨head, ready, by simpa using quoted⟩
    · split at equal <;> cases equal

/-- A value is a node that is no list, or the empty list. -/
theorem isValue_iff (node : Node) :
    node.isValue = true ↔ node.isList = false ∨ node = .list [] := by
  cases node <;> simp [isValue, isList]

end Node

namespace Engine

open Reduction

variable (engine : Engine) (inputs : Inputs) (scope : Scope)

/-- The state in which a list is reduced: its step is counted and may be announced. -/
def entered (items : List Node) (state : State) : State :=
  if engine.settings.debug then
    { state with counter := state.counter + 1 }.noting (.reducing (state.counter + 1) scope items)
  else { state with counter := state.counter + 1 }

@[simp] theorem entered_meter (items : List Node) (state : State) :
    (engine.entered scope items state).meter = state.meter := by
  unfold entered
  split_ifs <;> rfl

@[simp] theorem entered_counter (items : List Node) (state : State) :
    (engine.entered scope items state).counter = state.counter + 1 := by
  unfold entered
  split_ifs <;> rfl

@[simp] theorem entered_withMeter (items : List Node) (state : State) (meter : Meter) :
    engine.entered scope items (state.withMeter meter) =
      (engine.entered scope items state).withMeter meter := by
  unfold entered
  split_ifs <;> rfl

/-- The results of the items of a list, and the state after the last one. -/
def results (items : List Node) (state : State) : List (Except Error Node) × State :=
  (engine.branches inputs scope items).run state

@[simp] theorem results_nil (state : State) :
    engine.results inputs scope [] state = ([], state) := by
  rw [results, branches]
  rfl

theorem results_cons (item : Node) (rest : List Node) (state : State) :
    engine.results inputs scope (item :: rest) state =
      let first := (engine.branch inputs scope item).on state
      let others := engine.results inputs scope rest first.2
      (first.1 :: others.1, others.2) := by
  rw [results, branches]
  rfl

/-- The items of a sequence are reduced and gathered. -/
def reduceItems (items : List Node) : Reduction Node := do
  let results ← branches engine inputs scope items
  match gather results with
  | .ok reduced => pure (sequenceResult reduced)
  | .error error => throw error

theorem on_reduceItems (items : List Node) (state : State) :
    (engine.reduceItems inputs scope items).on state =
      ((gather (engine.results inputs scope items state).1).map sequenceResult,
        (engine.results inputs scope items state).2) := by
  change Reduction.on (match gather (engine.results inputs scope items state).1 with
    | .ok reduced => pure (sequenceResult reduced)
    | .error error => throw error) (engine.results inputs scope items state).2 = _
  cases gather (engine.results inputs scope items state).1 <;> rfl

theorem gather_ok_cons (node : Node) (rest : List (Except Error Node)) :
    gather (.ok node :: rest) = (gather rest).map (node :: ·) := by
  rw [gather]
  cases gather rest <;> rfl

/-- Results that are gathered are all there. -/
theorem eq_map_of_gather {results : List (Except Error Node)} {nodes : List Node}
    (gathered : gather results = .ok nodes) : results = nodes.map .ok := by
  induction results generalizing nodes with
  | nil =>
      cases gathered
      rfl
  | cons result rest inductionHypothesis =>
      cases result with
      | error error => cases gathered
      | ok node =>
          rw [gather_ok_cons] at gathered
          cases equal : gather rest with
          | error error =>
              rw [equal] at gathered
              cases gathered
          | ok others =>
              rw [equal] at gathered
              cases gathered
              rw [inductionHypothesis equal, List.map_cons]

@[simp] theorem gather_map_ok (nodes : List Node) : gather (nodes.map .ok) = .ok nodes := by
  induction nodes with
  | nil => rfl
  | cons node rest inductionHypothesis =>
      rw [List.map_cons, gather_ok_cons, inductionHypothesis]
      rfl

/-- Items that are all reduced are reduced one after another. -/
theorem results_cons_eq_ok {item : Node} {rest nodes : List Node} {state after : State}
    (reduced : engine.results inputs scope (item :: rest) state = (nodes.map .ok, after)) :
    ∃ node others middle, nodes = node :: others ∧
      (engine.branch inputs scope item).on state = (.ok node, middle) ∧
        engine.results inputs scope rest middle = (others.map .ok, after) := by
  rw [results_cons] at reduced
  cases nodes with
  | nil => cases reduced
  | cons node others =>
      obtain ⟨first, later⟩ := Prod.mk.inj reduced
      obtain ⟨firstResult, laterResults⟩ := List.cons.inj first
      exact ⟨node, others, _, rfl, Prod.ext firstResult rfl, Prod.ext laterResults later⟩

/-- A sequence is reduced when all of its items are. -/
theorem on_reduceItems_eq_ok {items : List Node} {reduced : Node} {state after : State}
    (succeeds : (engine.reduceItems inputs scope items).on state = (.ok reduced, after)) :
    ∃ nodes, engine.results inputs scope items state = (nodes.map .ok, after) ∧
      reduced = sequenceResult nodes := by
  rw [on_reduceItems] at succeeds
  obtain ⟨gathered, final⟩ := Prod.mk.inj succeeds
  cases nodes : gather (engine.results inputs scope items state).1 with
  | error error =>
      rw [nodes] at gathered
      cases gathered
  | ok nodes' =>
      rw [nodes] at gathered
      cases gathered
      exact ⟨nodes', Prod.ext (eq_map_of_gather nodes) final, rfl⟩

/-- The name under which a function is found is bound to it. -/
theorem of_resolve? {engine : Engine} {scope : Scope} {requested name : String}
    {function : Function} (found : engine.resolve? scope requested = some (name, function)) :
    engine.library.function? name scope = some function := by
  unfold resolve? at found
  split at found
  · rename_i bound
    cases found
    exact bound
  · obtain ⟨fallback, bound, equal⟩ := Option.map_eq_some_iff.mp found
    cases equal
    exact bound

/-- The call of a function that is found, once its charges are paid. -/
def callFunction (id : Nat) (requested name : String) (function : Function)
    (items : List Node) : Reduction Node := do
  engine.checkArity scope name (engine.arguments scope items).length
  engine.checkPurity scope name
  perform (function.call
    { id := id, seed := engine.seed, name := requested, list := items, argv := inputs.argv,
      event := inputs.event, scope := scope } (engine.arguments scope items))

/-- The reduction of a list by its shape, once its charges are paid. -/
def reduceList (id : Nat) (items : List Node) : Node.Shape → Reduction Node
  | .quote =>
    let payload := items.getLast?.getD .null
    pure (if payload.isValue then payload else .quote payload)
  | .call requested =>
    match engine.resolve? scope requested with
    | some (name, function) => engine.callFunction inputs scope id requested name function items
    | none => engine.invokeOther scope requested items (engine.arguments scope items)
  | .empty => pure (.list [])
  | .sequence => engine.reduceItems inputs (engine.library.innerScope scope items) items

/-- The price of a function that is found is charged on top of the call. -/
def priceCharges (requested : String) : List Float :=
  match engine.resolve? scope requested with
  | some (name, _) => (engine.library.price? name scope).toList.map (- ·)
  | none => []

/-- The amounts that a list of some shape and length is charged before it is reduced. -/
def bill (length : Nat) : Node.Shape → List Float
  | .quote => [engine.settings.quoteAmount]
  | .call requested => engine.settings.invokeAmount :: engine.priceCharges scope requested
  | .empty => []
  | .sequence => [engine.settings.sequenceAmount * Float.ofNat length]

/-- A call pays the amount of calls and its price, and is then resolved. -/
theorem invoke_eq (id : Nat) (requested : String) (items : List Node) :
    engine.invoke inputs scope id requested items =
      chargeAll (engine.bill scope items.length (.call requested)) items >>= fun _ =>
        engine.reduceList inputs scope id items (.call requested) := by
  unfold invoke bill priceCharges chargePrice reduceList callFunction
  cases resolved : engine.resolve? scope requested with
  | none => simp [resolved, chargeAll]
  | some found =>
      cases price : engine.library.price? found.1 scope <;>
        simp [resolved, price, chargeAll]

/-- A step is counted and announced before anything else happens to a list. -/
theorem on_enter (items : List Node) (next : Nat → Reduction Node) (state : State) :
    (do
      let id ← nextStep
      engine.announce scope id items
      next id).on state =
      (next (state.counter + 1)).on (engine.entered scope items state) := by
  rw [on_bind, on_nextStep]
  unfold announce entered
  dsimp only
  split_ifs <;> rfl

/-- A node that is no list stays as it is. -/
theorem branch_other (node : Node) (other : node.isList = false) (state : State) :
    (engine.branch inputs scope node).on state = (.ok node, state) := by
  cases node with
  | list items => simp [Node.isList] at other
  | _ =>
      rw [branch]
      · rfl
      · intro items equal
        cases equal

/-- A list is counted, pays its bill, and is then reduced by its shape. -/
theorem branch_list (items : List Node) (state : State) :
    (engine.branch inputs scope (.list items)).on state =
      (chargeAll (engine.bill scope items.length (Node.shape items)) items >>= fun _ =>
        engine.reduceList inputs scope (state.counter + 1) items (Node.shape items)).on
          (engine.entered scope items state) := by
  have sequence : (do
      charge (engine.settings.sequenceAmount * Float.ofNat items.length) items
      engine.reduceItems inputs (engine.library.innerScope scope items) items) =
        chargeAll (engine.bill scope items.length .sequence) items >>= fun _ =>
          engine.reduceList inputs scope (state.counter + 1) items .sequence := by
    simp [bill, chargeAll, reduceList]
  rw [branch]
  refine (engine.on_enter scope items _ state).trans ?_
  congr 1
  unfold Node.shape
  by_cases quoted : Node.isQuoteForm items = true
  · rw [if_pos quoted, if_pos quoted]
    simp [reduceQuote, reduceList, bill, chargeAll]
  · rw [if_neg quoted, if_neg quoted]
    cases Node.headName? items with
    | none =>
        cases items.isEmpty with
        | true => rfl
        | false => exact sequence
    | some requested =>
        cases Node.isCallReady items with
        | true => exact engine.invoke_eq inputs scope _ requested items
        | false =>
            cases items.isEmpty with
            | true => rfl
            | false => exact sequence

/-- A value stays as it is. -/
theorem branch_value (node : Node) (value : node.isValue = true) (state : State) :
    ∃ after, after.meter = state.meter ∧
      (engine.branch inputs scope node).on state = (.ok node, after) := by
  rcases (Node.isValue_iff node).mp value with other | rfl
  · exact ⟨state, rfl, engine.branch_other inputs scope node other state⟩
  · exact ⟨_, engine.entered_meter scope [] state, engine.branch_list inputs scope [] state⟩

end Engine

end Reduct
