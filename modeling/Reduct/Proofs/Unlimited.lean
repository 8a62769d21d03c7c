import Reduct.Proofs.Ledger

namespace Reduct

namespace Engine

open Reduction

variable (engine : Engine) (inputs : Inputs)

/-- Payable amounts are charged to the endless balance. -/
theorem on_chargeAll_endless {amounts : List Float} (payable : Payable amounts)
    (items : List Node) (state : State) :
    (chargeAll amounts items).on (state.holding endless) = (.ok (), state.holding endless) := by
  obtain ⟨affordable, unchanged⟩ := affords_endless_iff amounts
  rw [(Metered.chargeAll amounts items state).paid endless (affordable.mpr payable),
    unchanged payable]

/-- Amounts that are charged to the endless balance are payable. -/
theorem payable_of_chargeAll {amounts : List Float} {items : List Node} {state after : State}
    (charged : (chargeAll amounts items).on (state.holding endless) = (.ok (), after)) :
    Payable amounts := by
  by_contra unpayable
  have refused : ¬ Affords endless amounts := fun afforded =>
    unpayable ((affords_endless_iff amounts).1.mp afforded)
  obtain ⟨error, stopped, left, failed, -⟩ :=
    (Metered.chargeAll amounts items state).cut endless refused
  rw [failed] at charged
  cases charged

/-- Items that are all reduced have paid their charges. -/
theorem payable_of_results (scope : Scope) (items nodes : List Node)
    (each : ∀ item ∈ items, ∀ (state after : State) (node : Node),
      (engine.branch inputs scope item).on (state.holding endless) = (.ok node, after) →
        Payable (engine.charges scope item) ∧ after.holding endless = after)
    (state after : State)
    (reduced : engine.results inputs scope items (state.holding endless) =
      (nodes.map .ok, after)) :
    Payable (engine.itemCharges scope items) ∧ after.holding endless = after := by
  induction items generalizing nodes state with
  | nil =>
      rw [results_nil] at reduced
      obtain ⟨-, rfl⟩ := Prod.mk.inj reduced
      exact ⟨by simp [Payable, itemCharges], rfl⟩
  | cons item rest inductionHypothesis =>
      obtain ⟨node, others, middle, -, branched, later⟩ :=
        engine.results_cons_eq_ok inputs scope reduced
      obtain ⟨paid, same⟩ := each item (.head rest) state middle node branched
      rw [← same] at later
      obtain ⟨otherwise, kept⟩ := inductionHypothesis others
        (fun item member => each item (.tail _ member)) middle later
      rw [itemCharges, payable_append]
      exact ⟨⟨paid, otherwise⟩, kept⟩

/-- A node that is reduced under the endless balance has paid its charges. -/
theorem payable_of_branch (node : Node) :
    ∀ (scope : Scope) (state after : State) (result : Node),
      (engine.branch inputs scope node).on (state.holding endless) = (.ok result, after) →
        Payable (engine.charges scope node) ∧ after.holding endless = after := by
  induction node using Node.listInduction with
  | other node other =>
      intro scope state after result reduced
      rw [engine.branch_other inputs scope node other] at reduced
      cases reduced
      rw [engine.charges_other scope node other]
      exact ⟨by simp [Payable], rfl⟩
  | list items inductionHypothesis =>
      intro scope state after result reduced
      rw [branch_holding] at reduced
      obtain ⟨_, middle, charged, rest⟩ := on_bind_eq_ok reduced
      have billed := payable_of_chargeAll charged
      rw [on_chargeAll_endless billed] at charged
      cases charged
      unfold charges
      cases equal : Node.shape items with
      | sequence =>
          rw [equal] at billed rest
          change (engine.reduceItems inputs _ items).on _ = _ at rest
          obtain ⟨nodes, reduced, -⟩ := engine.on_reduceItems_eq_ok inputs _ rest
          obtain ⟨paid, same⟩ := engine.payable_of_results inputs _ items nodes
            (fun item member => inductionHypothesis item member _) _ after reduced
          exact ⟨(payable_append _ _).mpr ⟨billed, paid⟩, same⟩
      | _ =>
          rw [equal] at billed rest
          have ignores := engine.ignoresMeter_reduceList inputs scope (state.counter + 1) items
            (Node.shape items) (by rw [equal]; simp)
          rw [equal] at ignores
          have kept := ignores.meter_eq ((engine.entered scope items state).holding endless)
          rw [rest] at kept
          exact ⟨by simpa using billed, State.holding_of_meter kept⟩

/-- An endless balance that pays the charges of a node reduces it to another. -/
def ReducesTo (scope : Scope) (node reduced : Node) : Prop :=
  Payable (engine.charges scope node) → ∀ state : State, ∃ after : State,
    (engine.branch inputs scope node).on (state.holding endless) =
      (.ok reduced, after.holding endless)

namespace ReducesTo

variable {engine inputs} {scope : Scope}

theorem other {node : Node} (other : node.isList = false) :
    engine.ReducesTo inputs scope node node :=
  fun _ state => ⟨state, engine.branch_other inputs scope node other _⟩

/-- A list that is no sequence is reduced to what it yields once its bill is paid. -/
theorem single {items : List Node} {node : Node} (single : Node.shape items ≠ .sequence)
    (yields : ∀ (id : Nat) (state : State),
      ((engine.reduceList inputs scope id items (Node.shape items)).on state).1 = .ok node) :
    engine.ReducesTo inputs scope (.list items) node := by
  intro payable state
  rw [charges, payable_append] at payable
  have ignores :=
    engine.ignoresMeter_reduceList inputs scope (state.counter + 1) items (Node.shape items) single
  rw [branch_holding, on_bind, on_chargeAll_endless payable.1]
  exact ⟨_, (ignores _ ⟨endless, none⟩).trans (Prod.ext (yields _ _) rfl)⟩

/-- Items are all reduced when each of them is. -/
theorem results {items nodes : List Node}
    (each : List.Forall₂ (engine.ReducesTo inputs scope) items nodes)
    (payable : Payable (engine.itemCharges scope items)) (state : State) :
    ∃ after : State, engine.results inputs scope items (state.holding endless) =
      (nodes.map .ok, after.holding endless) := by
  induction each generalizing state with
  | nil => exact ⟨state, engine.results_nil inputs scope _⟩
  | cons first _ inductionHypothesis =>
      rw [itemCharges, payable_append] at payable
      obtain ⟨middle, reduced⟩ := first payable.1 state
      obtain ⟨after, others⟩ := inductionHypothesis payable.2 middle
      refine ⟨after, ?_⟩
      simp only [results_cons]
      rw [reduced, others, List.map_cons]

/-- A sequence is reduced to what its reduced items make. -/
theorem sequence {items nodes : List Node} (shape : Node.shape items = .sequence)
    (each : List.Forall₂ (engine.ReducesTo inputs (engine.library.innerScope scope items))
      items nodes) :
    engine.ReducesTo inputs scope (.list items) (sequenceResult nodes) := by
  intro payable state
  rw [charges, shape, payable_append] at payable
  obtain ⟨after, reduced⟩ := results each payable.2 (engine.entered scope items state)
  refine ⟨after, ?_⟩
  rw [branch_holding, shape, on_bind, on_chargeAll_endless payable.1]
  change (engine.reduceItems inputs _ items).on _ = _
  rw [on_reduceItems, reduced, gather_map_ok]
  rfl

end ReducesTo

end Engine

end Reduct
