import Reduct.Proofs.Run
import Reduct.Proofs.Tariff

namespace Reduct

open Number Reduction

/-- A reduction that succeeds on a positive whole balance leaves one that is no larger. -/
def Frugal {α : Type} (reduction : Reduction α) : Prop :=
  ∀ (state after : State) (value : α) (units : Int),
    integer? state.meter.balance = some units → 0 < units → units < 2 ^ 53 →
      reduction.on state = (.ok value, after) →
        ∃ left : Int, integer? after.meter.balance = some left ∧ 0 < left ∧ left ≤ units

namespace Frugal

variable {α β : Type}

theorem of_ignoresMeter {reduction : Reduction α} (ignores : reduction.IgnoresMeter) :
    Frugal reduction := by
  intro state after value units whole positive _ succeeds
  have same := ignores.meter_eq state
  rw [succeeds] at same
  exact ⟨units, by rw [same, whole], positive, le_rfl⟩

theorem bind {reduction : Reduction α} {next : α → Reduction β} (first : Frugal reduction)
    (second : ∀ value, Frugal (next value)) : Frugal (reduction >>= next) := by
  intro state after result units whole positive small succeeds
  obtain ⟨value, middle, before, rest⟩ := on_bind_eq_ok succeeds
  obtain ⟨left, leftWhole, leftPositive, lower⟩ :=
    first state middle value units whole positive small before
  obtain ⟨final, finalWhole, finalPositive, last⟩ :=
    second value middle after result left leftWhole leftPositive (by omega) rest
  exact ⟨final, finalWhole, finalPositive, last.trans lower⟩

/-- A debit that succeeds takes its units off any whole balance and leaves a positive one. -/
theorem charge_left {least : Nat} {amount : Float} (debit : IsDebit least amount)
    {items : List Node} {state after : State} {units : Int}
    (whole : integer? state.meter.balance = some units) (small : units < 2 ^ 53)
    (succeeds : (charge amount items).on state = (.ok (), after)) :
    ∃ left : Int, integer? after.meter.balance = some left ∧ 0 < left ∧ left ≤ units - least := by
  rw [on_charge] at succeeds
  split_ifs at succeeds with enough
  · cases succeeds
    rw [Meter.ok, Bool.and_eq_true] at enough
    exact debit.left_of_zero_lt least _ amount units whole small (of_decide_eq_true enough.1)
  · cases succeeds

theorem chargeAll {amounts : List Float} (debits : ∀ amount ∈ amounts, IsDebit 0 amount)
    (items : List Node) : Frugal (Reduction.chargeAll amounts items) := by
  induction amounts with
  | nil => exact of_ignoresMeter (.pure ())
  | cons amount rest inductionHypothesis =>
      apply bind
      · intro state after value units whole positive small succeeds
        simpa using charge_left (debits amount (.head rest)) whole small succeeds
      · intro value
        exact inductionHypothesis fun later member => debits later (.tail amount member)

end Frugal

namespace Engine

variable (engine : Engine) (inputs : Inputs)

/-- Items that are all reduced leave a positive balance that is no larger. -/
theorem results_frugal (scope : Scope) (items nodes : List Node)
    (each : ∀ item ∈ items, Frugal (engine.branch inputs scope item)) (state after : State)
    (units : Int) (whole : integer? state.meter.balance = some units) (positive : 0 < units)
    (small : units < 2 ^ 53)
    (reduced : engine.results inputs scope items state = (nodes.map .ok, after)) :
    ∃ left : Int, integer? after.meter.balance = some left ∧ 0 < left ∧ left ≤ units := by
  induction items generalizing nodes state units with
  | nil =>
      rw [results_nil] at reduced
      obtain ⟨-, rfl⟩ := Prod.mk.inj reduced
      exact ⟨units, whole, positive, le_rfl⟩
  | cons item rest inductionHypothesis =>
      obtain ⟨node, others, middle, -, branched, later⟩ :=
        engine.results_cons_eq_ok inputs scope reduced
      obtain ⟨left, leftWhole, leftPositive, lower⟩ :=
        each item (.head rest) state middle node units whole positive small branched
      obtain ⟨final, finalWhole, finalPositive, last⟩ := inductionHypothesis others
        (fun item member => each item (.tail _ member)) middle left leftWhole leftPositive
        (by omega) later
      exact ⟨final, finalWhole, finalPositive, last.trans lower⟩

variable {engine}

/-- Once its bill is paid, a list is reduced frugally when its items are. -/
theorem IsWholeTariff.frugal_reduceList (scope : Scope) (id : Nat) (items : List Node)
    (each : ∀ item ∈ items,
      Frugal (engine.branch inputs (engine.library.innerScope scope items) item)) :
    Frugal (engine.reduceList inputs scope id items (Node.shape items)) := by
  cases shape : Node.shape items with
  | sequence =>
      intro state after reduced units whole positive small succeeds
      obtain ⟨nodes, results, -⟩ := engine.on_reduceItems_eq_ok inputs _ succeeds
      exact engine.results_frugal inputs _ items nodes each state after units whole positive small
        results
  | _ => exact .of_ignoresMeter (engine.ignoresMeter_reduceList inputs scope id items _ (by simp))

/-- Every branch is frugal. -/
theorem IsWholeTariff.frugal_branch (tariff : engine.IsWholeTariff 1) (node : Node) :
    ∀ scope, Frugal (engine.branch inputs scope node) := by
  induction node using Node.listInduction with
  | other node other =>
      intro scope state after value units whole positive _ succeeds
      rw [engine.branch_other inputs scope node other] at succeeds
      cases succeeds
      exact ⟨units, whole, positive, le_rfl⟩
  | list items inductionHypothesis =>
      intro scope state after value units whole positive small succeeds
      rw [branch_list] at succeeds
      have debits : ∀ amount ∈ engine.bill scope items.length (Node.shape items),
          IsDebit 0 amount := by
        cases items with
        | nil => simp [bill]
        | cons first rest =>
            obtain ⟨amount, others, billed, debit, credits⟩ :=
              tariff.exists_debit_bill scope (List.cons_ne_nil first rest)
            rw [billed]
            intro charged member
            rcases List.mem_cons.mp member with rfl | later
            · exact debit.mono (Nat.zero_le 1)
            · exact credits charged later
      exact Frugal.bind (.chargeAll debits items)
        (fun _ => IsWholeTariff.frugal_reduceList inputs scope _ items fun item member =>
          inductionHypothesis item member _)
        _ after value units (by rw [entered_meter]; exact whole) positive small succeeds

/-- A filled list that is reduced has paid at least one unit. -/
theorem IsWholeTariff.branch_left (tariff : engine.IsWholeTariff 1) (scope : Scope)
    {items : List Node} (filled : items ≠ []) {state after : State} {reduced : Node} {units : Int}
    (whole : integer? state.meter.balance = some units) (small : units < 2 ^ 53)
    (succeeds : (engine.branch inputs scope (.list items)).on state = (.ok reduced, after)) :
    ∃ left : Int, integer? after.meter.balance = some left ∧ 0 < left ∧ left ≤ units - 1 := by
  obtain ⟨amount, rest, billed, debit, credits⟩ := tariff.exists_debit_bill scope filled
  rw [branch_list, billed, chargeAll, bind_assoc] at succeeds
  obtain ⟨_, middle, charged, further⟩ := on_bind_eq_ok succeeds
  obtain ⟨left, leftWhole, leftPositive, lower⟩ :=
    Frugal.charge_left debit (by rw [entered_meter]; exact whole) small charged
  have frugal := Frugal.bind (.chargeAll credits items) fun _ =>
    IsWholeTariff.frugal_reduceList inputs scope (state.counter + 1) items fun item _ =>
      tariff.frugal_branch inputs item _
  obtain ⟨final, finalWhole, finalPositive, last⟩ :=
    frugal middle after reduced left leftWhole leftPositive (by omega) further
  exact ⟨final, finalWhole, finalPositive, last.trans (by exact_mod_cast lower)⟩

/-- A round that leaves a program to do has paid at least one unit. -/
theorem IsWholeTariff.round_left (tariff : engine.IsWholeTariff 1) {first : Bool}
    {program next : Node} {state after : State} {units : Int}
    (whole : integer? state.meter.balance = some units) (small : units < 2 ^ 53)
    (again : (engine.round inputs first program).on state = (.ok (.again next), after)) :
    ∃ left : Int, integer? after.meter.balance = some left ∧ 0 < left ∧ left ≤ units - 1 := by
  obtain ⟨head, rest, middle, passed, -, rfl, -⟩ := engine.of_round_again inputs again
  cases program with
  | null => cases passed
  | list items =>
      obtain ⟨inner, denested⟩ := Node.exists_denest_list items
      rw [engine.pass_list inputs .global first items inner denested] at passed
      obtain ⟨expanded, between, expanding, branched⟩ := on_bind_eq_ok passed
      have same := (engine.ignoresMeter_preprocess inputs inner).meter_eq state
      rw [expanding] at same
      refine tariff.branch_left inputs .global ?_ (by rw [same]; exact whole) small branched
      -- The empty list stays empty, and so it is not left to do.
      intro nothing
      rw [joined, nothing, branch_list] at branched
      cases branched
  | _ => cases passed

end Engine

namespace Session

/-- A run on a whole balance ends within one more pass than the balance has units. -/
theorem run_ends_on_budget (session : Session) (inputs : Inputs) (program : Node)
    (tariff : session.engine.IsWholeTariff 1) (units : Int)
    (whole : integer? session.state.meter.balance = some units) (small : units < 2 ^ 53)
    (bound : Nat) (enough : max units 0 + 1 ≤ bound) :
    (session.run inputs bound program).1 ≠ .ok none := by
  rw [run_eq]
  apply session.engine.rounds_end inputs
    (fun state => ∃ left : Int, integer? state.meter.balance = some left ∧ left < 2 ^ 53)
    (fun _ _ state => ((integer? state.meter.balance).getD 0).toNat)
  · rintro first program state next after ⟨units, whole, small⟩ again
    obtain ⟨left, leftWhole, positive, lower⟩ := tariff.round_left inputs whole small again
    refine ⟨⟨left, leftWhole, by omega⟩, ?_⟩
    simp only [whole, leftWhole, Option.getD_some]
    omega
  · exact ⟨units, by rw [Engine.opened_meter]; exact whole, small⟩
  · simp only [Engine.opened_meter, whole, Option.getD_some]
    omega

/-- A session with a balance of three and two functions that return calls of each other. -/
def circular : Session :=
  .start
    { function? := fun name _ =>
        if name = "f" then some ⟨none, false, fun _ _ => pure (.list [.string "g"])⟩
        else if name = "g" then some ⟨none, false, fun _ _ => pure (.list [.string "f"])⟩
        else none
      caster? := fun _ _ => none
      constant? := fun _ _ => none
      preprocessor? := fun _ _ => none
      price? := fun _ _ => none
      opensScope := fun _ _ => false }
    { balance := some 3.0 } .empty 0 0

/-- Two functions that call each other for ever are stopped within four passes. -/
theorem circular_ends :
    circular.engine.IsWholeTariff 1 ∧
      (circular.run ⟨[], none⟩ 4 (.list [.string "f"])).1 ≠ .ok none := by
  have tariff : circular.engine.IsWholeTariff 1 :=
    { quote := ⟨1, le_rfl, by decide +kernel⟩
      invoke := ⟨1, le_rfl, by decide +kernel⟩
      sequence := ⟨1, le_rfl, by decide +kernel⟩
      price := fun _ _ _ found => by cases found }
  exact ⟨tariff, run_ends_on_budget circular ⟨[], none⟩ (.list [.string "f"]) tariff 3
    (by decide +kernel) (by decide) 4 (by decide)⟩

end Session

end Reduct
