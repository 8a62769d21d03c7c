import Reduct.Proofs.Metering

namespace Reduct

namespace Engine

open Reduction

variable (engine : Engine) (inputs : Inputs)

mutual

/-- What one pass charges a node when nothing cuts it off. -/
def charges (scope : Scope) : Node → List Float
  | .list items =>
    engine.bill scope items.length (Node.shape items) ++
      match Node.shape items with
      | .sequence => itemCharges (engine.library.innerScope scope items) items
      | _ => []
  | _ => []

/-- Every item is charged, whether or not an earlier one fails. -/
def itemCharges (scope : Scope) : List Node → List Float
  | [] => []
  | item :: rest => charges scope item ++ itemCharges scope rest

end

theorem mem_itemCharges_iff (scope : Scope) (items : List Node) (amount : Float) :
    amount ∈ engine.itemCharges scope items ↔
      ∃ item ∈ items, amount ∈ engine.charges scope item := by
  induction items with
  | nil => simp [itemCharges]
  | cons item rest inductionHypothesis => simp [itemCharges, inductionHypothesis]

theorem charges_other (scope : Scope) (node : Node) (other : node.isList = false) :
    engine.charges scope node = [] := by
  cases node with
  | list items => simp [Node.isList] at other
  | _ => simp [charges]

theorem charges_value (scope : Scope) (node : Node) (value : node.isValue = true) :
    engine.charges scope node = [] := by
  rcases (Node.isValue_iff node).mp value with other | rfl
  · exact engine.charges_other scope node other
  · simp [charges, bill]

/-- A list that is no value is charged before anything else happens. -/
theorem exists_bill_eq_cons (scope : Scope) (items : List Node) (filled : items ≠ []) :
    ∃ amount rest, engine.bill scope items.length (Node.shape items) = amount :: rest := by
  cases equal : Node.shape items with
  | empty => exact absurd ((Node.shape_eq_empty_iff items).mp equal) filled
  | _ => exact ⟨_, _, rfl⟩

theorem branch_holding (scope : Scope) (items : List Node) (state : State) (balance : Float) :
    (engine.branch inputs scope (.list items)).on (state.holding balance) =
      (chargeAll (engine.bill scope items.length (Node.shape items)) items >>= fun _ =>
        engine.reduceList inputs scope (state.counter + 1) items (Node.shape items)).on
          ((engine.entered scope items state).holding balance) := by
  rw [branch_list, State.holding, entered_withMeter]
  rfl

/-- A spent balance reduces no list that is not a value. -/
theorem branch_spent (scope : Scope) (node : Node) (unfinished : node.isValue = false)
    (debits : ∀ amount ∈ engine.charges scope node, ¬ 0.0 < amount) (state : State)
    (balance : Float) (spent : ¬ 0.0 < balance) :
    ∃ (reduced : Node) (after : State) (left : Float),
      (engine.branch inputs scope node).on (state.holding balance) =
        (.error (.outOfGas reduced), after.holding left) ∧ ¬ 0.0 < left := by
  cases node with
  | list items =>
      have filled : items ≠ [] := by
        rintro rfl
        simp [Node.isValue] at unfinished
      obtain ⟨amount, rest, first⟩ := engine.exists_bill_eq_cons scope items filled
      have debit : ¬ 0.0 < amount := debits amount (by simp [charges, first])
      have less : ¬ 0.0 < balance + amount := Packing.not_zero_lt_add balance amount spent debit
      have refused := on_charge_refused amount balance items (engine.entered scope items state) less
      rw [branch_holding, first, chargeAll, bind_assoc, on_bind, refused]
      exact ⟨.list items, _, balance + amount, rfl, less⟩
  | _ => simp [Node.isValue] at unfinished

/-- A value stays as it is under any balance. -/
theorem branch_value_holding (scope : Scope) (node : Node) (value : node.isValue = true)
    (state : State) (balance : Float) :
    ∃ after : State, (engine.branch inputs scope node).on (state.holding balance) =
      (.ok node, after.holding balance) := by
  obtain ⟨after, same, equal⟩ := engine.branch_value inputs scope node value (state.holding balance)
  rw [← State.holding_of_meter same] at equal
  exact ⟨after, equal⟩

/-- Items end as if there were no meter when the balance affords their charges. Otherwise at least
one of them is cut off, and so may be the items after it, whatever state they are reduced in. -/
structure MeteredItems (scope : Scope) (items : List Node) (state : State)
    (results : List (Except Error Node)) (final : State) : Prop where
  paid : ∀ balance, Affords balance (engine.itemCharges scope items) →
    engine.results inputs scope items (state.holding balance) =
      (results, final.holding (spend balance (engine.itemCharges scope items)))
  cut : ∀ balance, ¬ Affords balance (engine.itemCharges scope items) →
    ∃ (limited : List (Except Error Node)) (after : State) (left : Float),
      engine.results inputs scope items (state.holding balance) = (limited, after.holding left) ∧
        ¬ 0.0 < left ∧ List.Forall₂ Cut limited results ∧ ∃ error, .error error ∈ limited
  spent : ∀ (other : State) (balance : Float), ¬ 0.0 < balance →
    ∃ (limited : List (Except Error Node)) (after : State) (left : Float),
      engine.results inputs scope items (other.holding balance) = (limited, after.holding left) ∧
        ¬ 0.0 < left ∧ List.Forall₂ Cut limited results

theorem MeteredItems.nil (scope : Scope) (state : State) :
    MeteredItems engine inputs scope [] state [] state where
  paid balance _ := engine.results_nil inputs scope _
  cut balance refused := absurd (by simp [itemCharges]) refused
  spent other balance spent := ⟨[], other, balance, engine.results_nil inputs scope _, spent, .nil⟩

theorem MeteredItems.cons (scope : Scope) (item : Node) (rest : List Node)
    (state middle final : State) (result : Except Error Node) (results : List (Except Error Node))
    (first : Metered (engine.branch inputs scope item) state (engine.charges scope item) result
      middle)
    (others : MeteredItems engine inputs scope rest middle results final)
    (unspent : ∀ (other : State) (balance : Float), ¬ 0.0 < balance →
      ∃ (limited : Except Error Node) (after : State) (left : Float),
        (engine.branch inputs scope item).on (other.holding balance) =
          (limited, after.holding left) ∧ ¬ 0.0 < left ∧ Cut limited result) :
    MeteredItems engine inputs scope (item :: rest) state (result :: results) final where
  paid balance afforded := by
    rw [itemCharges, affords_append] at afforded
    simp only [results_cons, itemCharges, spend_append]
    rw [first.paid balance afforded.1, others.paid _ afforded.2]
  cut balance refused := by
    rw [itemCharges, affords_append] at refused
    simp only [results_cons]
    by_cases afforded : Affords balance (engine.charges scope item)
    · obtain ⟨limited, after, left, equal, spent, cut, error, failed⟩ :=
        others.cut _ fun more => refused ⟨afforded, more⟩
      rw [first.paid balance afforded, equal]
      exact ⟨_, after, left, rfl, spent, .cons (.inl rfl) cut, error, .tail _ failed⟩
    · obtain ⟨error, after, left, equal, spent, cut⟩ := first.cut balance afforded
      obtain ⟨limited, last, final, others, below, cuts⟩ := others.spent after left spent
      rw [equal, others]
      exact ⟨_, last, final, rfl, below, .cons cut cuts, error, .head _⟩
  spent other balance spent := by
    obtain ⟨limited, after, left, equal, below, cut⟩ := unspent other balance spent
    obtain ⟨limits, last, final, others, under, cuts⟩ := others.spent after left below
    simp only [results_cons]
    rw [equal, others]
    exact ⟨_, last, final, rfl, under, .cons cut cuts⟩

/-- The first error by position is kept or cut off when every result is. -/
theorem cut_gather {limited unlimited : List (Except Error Node)}
    (cuts : List.Forall₂ Cut limited unlimited) : Cut (gather limited) (gather unlimited) := by
  induction cuts with
  | nil => exact .inl rfl
  | cons first others inductionHypothesis =>
      rcases first with rfl | ⟨node, rfl⟩
      · rename_i result _ _
        cases result with
        | error error => exact .inl rfl
        | ok node =>
            rw [gather_ok_cons, gather_ok_cons]
            exact inductionHypothesis.map _
      · exact .inr ⟨node, rfl⟩

/-- Results with an error among them are not all gathered. -/
theorem exists_gather_error {results : List (Except Error Node)} {error : Error}
    (failed : .error error ∈ results) : ∃ first, gather results = .error first := by
  induction results with
  | nil => simp at failed
  | cons result rest inductionHypothesis =>
      cases result with
      | error first => exact ⟨first, rfl⟩
      | ok node =>
          obtain ⟨first, equal⟩ := inductionHypothesis (by simpa using failed)
          exact ⟨first, by rw [gather_ok_cons, equal]; rfl⟩

/-- The charges of a sequence after its bill are those of its items. -/
theorem MeteredItems.reduceItems {scope : Scope} {items : List Node} {state final : State}
    {results : List (Except Error Node)}
    (metered : MeteredItems engine inputs scope items state results final) :
    Metered (engine.reduceItems inputs scope items) state (engine.itemCharges scope items)
      ((gather results).map sequenceResult) final where
  paid balance afforded := by rw [on_reduceItems, metered.paid balance afforded]
  cut balance refused := by
    obtain ⟨limited, after, left, equal, spent, cuts, error, failed⟩ := metered.cut balance refused
    obtain ⟨first, gathered⟩ := exists_gather_error failed
    have cut := (cut_gather cuts).map sequenceResult
    rw [gathered] at cut
    rw [on_reduceItems, equal, gathered]
    exact ⟨first, after, left, rfl, spent, cut⟩

/-- Items are metered when each of them is. -/
theorem exists_meteredItems (scope : Scope) (items : List Node)
    (debits : ∀ amount ∈ engine.itemCharges scope items, ¬ 0.0 < amount)
    (each : ∀ item ∈ items, (∀ amount ∈ engine.charges scope item, ¬ 0.0 < amount) →
      ∀ state, ∃ result final,
        Metered (engine.branch inputs scope item) state (engine.charges scope item) result final)
    (state : State) :
    ∃ results final, MeteredItems engine inputs scope items state results final := by
  induction items generalizing state with
  | nil => exact ⟨[], state, .nil engine inputs scope state⟩
  | cons item rest inductionHypothesis =>
      simp only [itemCharges, List.mem_append] at debits
      have own : ∀ amount ∈ engine.charges scope item, ¬ 0.0 < amount :=
        fun amount charged => debits amount (.inl charged)
      obtain ⟨result, middle, first⟩ := each item (.head rest) own state
      obtain ⟨results, final, others⟩ := inductionHypothesis
        (fun amount charged => debits amount (.inr charged))
        (fun later member => each later (.tail item member)) middle
      refine ⟨result :: results, final,
        .cons engine inputs scope item rest state middle final result results first others ?_⟩
      intro other balance spent
      cases value : item.isValue with
      | false =>
          obtain ⟨node, after, left, equal, below⟩ :=
            engine.branch_spent inputs scope item value own other balance spent
          exact ⟨_, after, left, equal, below, .inr ⟨node, rfl⟩⟩
      | true =>
          have afforded : Affords balance (engine.charges scope item) := by
            rw [engine.charges_value scope item value]
            trivial
          obtain ⟨_, kept⟩ := engine.branch_value_holding inputs scope item value state balance
          obtain ⟨after, equal⟩ := engine.branch_value_holding inputs scope item value other balance
          rw [first.paid balance afforded] at kept
          exact ⟨_, after, balance, equal, spent, .inl (congrArg Prod.fst kept).symm⟩

/-- Every branch is metered by its charges. -/
theorem exists_metered_branch (node : Node) :
    ∀ scope, (∀ amount ∈ engine.charges scope node, ¬ 0.0 < amount) → ∀ state, ∃ result final,
      Metered (engine.branch inputs scope node) state (engine.charges scope node) result final := by
  induction node using Node.listInduction with
  | other node other =>
      intro scope _ state
      rw [engine.charges_other scope node other]
      refine ⟨.ok node, state, ?_⟩
      exact .of_on_eq (fun balance => engine.branch_other inputs scope node other _)
        (.of_ignoresMeter (.pure node) state)
  | list items inductionHypothesis =>
      intro scope debits state
      -- The bill comes first, and only a sequence has further charges.
      have billed := Metered.chargeAll (engine.bill scope items.length (Node.shape items)) items
        (engine.entered scope items state)
      have same := engine.branch_holding inputs scope items state
      unfold charges at debits ⊢
      cases equal : Node.shape items with
      | sequence =>
          rw [equal] at billed same debits
          obtain ⟨results, final, metered⟩ := engine.exists_meteredItems inputs
            (engine.library.innerScope scope items) items
            (fun amount charged => debits amount (List.mem_append_right _ charged))
            (fun item member => inductionHypothesis item member _)
            (engine.entered scope items state)
          exact ⟨_, final, .of_on_eq same (billed.bind_ok (metered.reduceItems engine inputs))⟩
      | _ =>
          rw [equal] at billed same
          have ignores := engine.ignoresMeter_reduceList inputs scope (state.counter + 1) items
            (Node.shape items) (by rw [equal]; simp)
          rw [equal] at ignores
          exact ⟨_, _, .of_on_eq same (billed.bind_ok (.of_ignoresMeter ignores _))⟩

end Engine

end Reduct
