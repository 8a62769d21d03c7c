import Reduct.Proofs.Ledger
import Reduct.Proofs.Tariff

namespace Reduct

namespace Engine

open Reduction

variable (engine : Engine) (inputs : Inputs)

/-- What a pass charges: nothing unless the leading forms of its list are expanded. -/
def passCharges (scope : Scope) (appendArgv : Bool) (program : Node) (state : State) :
    List Float :=
  match program.denest with
  | .list items =>
    match (engine.preprocess inputs items).on state with
    | (.ok expanded, _) => engine.charges scope (joined inputs appendArgv expanded)
    | (.error _, _) => []
  | _ => []

/-- What the rounds of a run charge, as long as one follows another. -/
def roundsCharges : Nat → Bool → Node → State → List Float
  | 0, _, _, _ => []
  | bound + 1, first, program, state =>
    engine.passCharges inputs .global first program state ++
      match (engine.round inputs first program).on state with
      | (.ok (.again next), after) => roundsCharges bound false next after
      | _ => []

/-- Every pass is metered by its charges. -/
theorem exists_metered_pass (scope : Scope) (appendArgv : Bool) (program : Node) (state : State)
    (debits : ∀ amount ∈ engine.passCharges inputs scope appendArgv program state,
      ¬ 0.0 < amount) :
    ∃ result final, Metered (engine.pass inputs scope appendArgv program) state
      (engine.passCharges inputs scope appendArgv program state) result final := by
  cases program with
  | null => exact ⟨_, _, .of_ignoresMeter (.fail .badInput) state⟩
  | list items =>
      obtain ⟨inner, denested⟩ := Node.exists_denest_list items
      rw [engine.pass_list inputs scope appendArgv items inner denested]
      have expanding := Metered.of_ignoresMeter (engine.ignoresMeter_preprocess inputs inner) state
      simp only [passCharges, denested] at debits ⊢
      rcases equal : (engine.preprocess inputs inner).on state with ⟨error | expanded, middle⟩
      all_goals rw [equal] at expanding debits
      · exact ⟨_, _, expanding.bind_error⟩
      · obtain ⟨result, final, branched⟩ :=
          engine.exists_metered_branch inputs _ scope debits middle
        exact ⟨result, final, expanding.bind_ok branched⟩
  | _ => exact ⟨_, _, .of_ignoresMeter (.pure _) state⟩

/-- Every round is metered by the charges of its pass. -/
theorem exists_metered_round (first : Bool) (program : Node) (state : State)
    (debits : ∀ amount ∈ engine.passCharges inputs .global first program state, ¬ 0.0 < amount) :
    ∃ result final, Metered (engine.round inputs first program) state
      (engine.passCharges inputs .global first program state) result final := by
  obtain ⟨result, middle, passed⟩ :=
    engine.exists_metered_pass inputs .global first program state debits
  cases result with
  | error error => exact ⟨_, middle, passed.bind_error⟩
  | ok reduced =>
      have settled := Metered.of_ignoresMeter (engine.ignoresMeter_settle program reduced) middle
      have both := passed.bind_ok settled
      rw [List.append_nil] at both
      exact ⟨_, _, both⟩

/-- The rounds of a run are metered by what they charge under the endless balance. -/
theorem exists_metered_rounds (bound : Nat) (first : Bool) (program : Node) (state : State)
    (charges : ∀ amount ∈ engine.roundsCharges inputs bound first program (state.holding endless),
      Number.IsCharge 0 amount) :
    ∃ result final, Metered (engine.rounds inputs bound first program) state
      (engine.roundsCharges inputs bound first program (state.holding endless)) result final := by
  induction bound generalizing first program state with
  | zero => exact ⟨.ok none, state, .of_ignoresMeter (.pure none) state⟩
  | succ bound inductionHypothesis =>
      rw [roundsCharges] at charges ⊢
      rw [rounds_succ]
      have own : ∀ amount ∈ engine.passCharges inputs .global first program (state.holding endless),
          Number.IsCharge 0 amount := fun amount charged =>
        charges amount (List.mem_append_left _ charged)
      obtain ⟨result, middle, held⟩ := engine.exists_metered_round inputs first program
        (state.holding endless) fun amount charged => (own amount charged).not_zero_lt
      have metered := held.of_holding
      obtain ⟨afforded, left⟩ := affords_endless own
      have unlimited := metered.paid endless afforded
      rw [left] at unlimited
      rw [unlimited] at charges ⊢
      rcases result with error | value | next
      · exact ⟨.error error, middle, by simpa using metered.bind_error⟩
      · have ends := Metered.of_ignoresMeter (.pure (some value)) middle
        exact ⟨.ok (some value), middle, metered.bind_ok ends⟩
      · obtain ⟨outcome, final, further⟩ := inductionHypothesis false next middle
          fun amount later => charges amount (List.mem_append_right _ later)
        exact ⟨outcome, final, metered.bind_ok further⟩

/-- What a node is charged stands on the bill of some list. -/
theorem exists_bill_of_charges (node : Node) :
    ∀ scope, ∀ amount ∈ engine.charges scope node, ∃ (inner : Scope) (items : List Node),
      amount ∈ engine.bill inner items.length (Node.shape items) := by
  induction node using Node.listInduction with
  | other node other =>
      intro scope amount charged
      simp [engine.charges_other scope node other] at charged
  | list items inductionHypothesis =>
      intro scope amount charged
      rw [charges, List.mem_append] at charged
      rcases charged with billed | later
      · exact ⟨scope, items, billed⟩
      · split at later
        · obtain ⟨item, member, charged⟩ := (engine.mem_itemCharges_iff _ items amount).mp later
          exact inductionHypothesis item member _ amount charged
        · simp at later

/-- What a pass charges stands on the bill of some list. -/
theorem exists_bill_of_passCharges (scope : Scope) (appendArgv : Bool) (program : Node)
    (state : State) (amount : Float)
    (charged : amount ∈ engine.passCharges inputs scope appendArgv program state) :
    ∃ (inner : Scope) (items : List Node),
      amount ∈ engine.bill inner items.length (Node.shape items) := by
  unfold passCharges at charged
  split at charged
  · split at charged
    · exact engine.exists_bill_of_charges _ scope amount charged
    · simp at charged
  · simp at charged

/-- What the rounds of a run charge stands on the bill of some list. -/
theorem exists_bill_of_roundsCharges (bound : Nat) (first : Bool) (program : Node) (state : State)
    (amount : Float)
    (charged : amount ∈ engine.roundsCharges inputs bound first program state) :
    ∃ (inner : Scope) (items : List Node),
      amount ∈ engine.bill inner items.length (Node.shape items) := by
  induction bound generalizing first program state with
  | zero => simp [roundsCharges] at charged
  | succ bound inductionHypothesis =>
      rw [roundsCharges, List.mem_append] at charged
      rcases charged with passed | later
      · exact engine.exists_bill_of_passCharges inputs .global first program state amount passed
      · split at later
        · exact inductionHypothesis false _ _ later
        · simp at later

end Engine

namespace Session

/-- What a run charges when its balance is unlimited. -/
def charges (session : Session) (inputs : Inputs) (bound : Nat) (program : Node) : List Float :=
  session.engine.roundsCharges inputs bound true program
    (session.engine.opened program (session.withBalance none).state)

/-- A run is metered by what it charges when its balance is unlimited. -/
theorem exists_metered_run (session : Session) (inputs : Inputs) (bound : Nat) (program : Node)
    (charges : ∀ amount ∈ session.charges inputs bound program, Number.IsCharge 0 amount) :
    ∃ result final, Metered (session.engine.run inputs bound program) session.state
      (session.charges inputs bound program) result final := by
  have opens := session.engine.opened_withMeter program session.state ⟨endless, none⟩
  change ∀ amount ∈ session.engine.roundsCharges inputs bound true program
    (session.engine.opened program (session.state.withMeter ⟨endless, none⟩)), _ at charges
  change ∃ result final, Metered _ _ (session.engine.roundsCharges inputs bound true program
    (session.engine.opened program (session.state.withMeter ⟨endless, none⟩))) result final
  rw [opens] at charges ⊢
  obtain ⟨result, final, metered⟩ :=
    session.engine.exists_metered_rounds inputs bound true program _ charges
  refine ⟨result, final, .of_on_eq (fun balance => ?_) metered⟩
  rw [Engine.on_run]
  exact congrArg _ (session.engine.opened_withMeter program session.state ⟨balance, none⟩)

theorem run_withBalance (session : Session) (inputs : Inputs) (bound : Nat) (program : Node)
    (balance : Option Float) :
    (session.withBalance balance).run inputs bound program =
      let outcome := (session.engine.run inputs bound program).on
        (session.state.holding (balance.getD endless))
      (outcome.1, { session with state := outcome.2 }) := rfl

/-- A whole balance above what a run without a limit costs changes nothing and is left with the
difference. A lower one cuts the run off, unless an error comes first. -/
theorem run_transparent (session : Session) (inputs : Inputs) (bound : Nat) (program : Node)
    (tariff : session.engine.IsWholeTariff 0)
    (finite : ∀ amount ∈ session.charges inputs bound program, amount.isFinite = true)
    (balance : Float) (units : Nat) (whole : Number.integer? balance = some (units : Int))
    (positive : 0 < units) (small : units < 2 ^ 53) :
    let unlimited := (session.withBalance none).run inputs bound program
    let limited := (session.withBalance (some balance)).run inputs bound program
    let total := cost (session.charges inputs bound program)
    (total < units →
      limited.1 = unlimited.1 ∧
        ∃ left, Number.integer? left = some ((units : Int) - total) ∧
          limited.2 = unlimited.2.withBalance (some left)) ∧
      (units ≤ total →
        (∀ value, unlimited.1 = .ok value → ∃ node, limited.1 = .error (.outOfGas node)) ∧
          ∀ error, unlimited.1 = .error error →
            limited.1 = .error error ∨ ∃ node, limited.1 = .error (.outOfGas node)) := by
  have charges : ∀ amount ∈ session.charges inputs bound program, Number.IsCharge 0 amount := by
    intro amount charged
    obtain ⟨inner, items, billed⟩ := session.engine.exists_bill_of_roundsCharges inputs bound true
      program _ amount charged
    exact tariff.isCharge_bill billed (finite amount charged)
  obtain ⟨result, final, metered⟩ := session.exists_metered_run inputs bound program charges
  obtain ⟨endlessly, left⟩ := affords_endless charges
  obtain ⟨affordable, remaining⟩ := affords_iff charges whole positive small
  intro unlimited limited total
  have free : unlimited = (result, { session with state := final.holding endless }) := by
    change (session.withBalance none).run inputs bound program = _
    rw [run_withBalance, Option.getD_none, metered.paid endless endlessly, left]
  constructor
  · intro below
    have paid : limited = (result, { session with
        state := final.holding (spend balance (session.charges inputs bound program)) }) := by
      change (session.withBalance (some balance)).run inputs bound program = _
      rw [run_withBalance, Option.getD_some, metered.paid balance (affordable.mpr below)]
    rw [paid, free]
    exact ⟨rfl, _, remaining below, rfl⟩
  · intro above
    obtain ⟨error, after, rest, outcome, -, cut⟩ :=
      metered.cut balance fun afforded => absurd (affordable.mp afforded) (by omega)
    have stopped : limited = (.error error, { session with state := after.holding rest }) := by
      change (session.withBalance (some balance)).run inputs bound program = _
      rw [run_withBalance, Option.getD_some, outcome]
    rw [stopped, free]
    constructor
    · rintro value rfl
      obtain ⟨node, rfl⟩ := cut.error_ok
      exact ⟨node, rfl⟩
    · rintro failure rfl
      exact cut

/-- A session whose only name is a function `f` with the price two. -/
def priced : Session :=
  .start
    { function? := fun name _ =>
        if name = "f" then some ⟨none, false, fun _ _ => pure (.number 5.0)⟩ else none
      caster? := fun _ _ => none
      constant? := fun _ _ => none
      preprocessor? := fun _ _ => none
      price? := fun name _ => if name = "f" then some 2.0 else none
      opensScope := fun _ _ => false }
    {} .empty 0 0

/-- A call of `f`, a call of an unknown name, and a number. -/
def twoCalls : Node :=
  .list [.list [.string "f"], .list [.string "g"], .number 1.0]

theorem priced_isWholeTariff : priced.engine.IsWholeTariff 0 where
  quote := ⟨1, Nat.zero_le 1, by decide +kernel⟩
  invoke := ⟨1, Nat.zero_le 1, by decide +kernel⟩
  sequence := ⟨1, Nat.zero_le 1, by decide +kernel⟩
  price name scope price found := by
    change (if name = "f" then some 2.0 else none) = some price at found
    split_ifs at found
    cases found
    exact ⟨2, by decide +kernel⟩

/-- The two calls cost seven: a balance of seven is cut off, and one of eight has one left. -/
theorem run_transparent_at_seven :
    cost (priced.charges ⟨[], none⟩ 2 twoCalls) = 7 ∧
      (∃ node, ((priced.withBalance (some 7.0)).run ⟨[], none⟩ 2 twoCalls).1 =
        .error (.outOfGas node)) ∧
      ∃ left, Number.integer? left = some 1 ∧
        ((priced.withBalance (some 8.0)).run ⟨[], none⟩ 2 twoCalls).2 =
          ((priced.withBalance none).run ⟨[], none⟩ 2 twoCalls).2.withBalance (some left) := by
  have total : cost (priced.charges ⟨[], none⟩ 2 twoCalls) = 7 := by decide +kernel
  have finite : ∀ amount ∈ priced.charges ⟨[], none⟩ 2 twoCalls, amount.isFinite = true := by
    decide +kernel
  have succeeds : ((priced.withBalance none).run ⟨[], none⟩ 2 twoCalls).1.isOk = true := by
    decide +kernel
  obtain ⟨value, ends⟩ : ∃ value, ((priced.withBalance none).run ⟨[], none⟩ 2 twoCalls).1 =
      .ok value := by
    generalize ((priced.withBalance none).run ⟨[], none⟩ 2 twoCalls).1 = result at succeeds
    cases result with
    | ok value => exact ⟨value, rfl⟩
    | error error => cases succeeds
  have seven := run_transparent priced ⟨[], none⟩ 2 twoCalls priced_isWholeTariff finite 7.0 7
    (by decide +kernel) (by decide) (by decide)
  have eight := run_transparent priced ⟨[], none⟩ 2 twoCalls priced_isWholeTariff finite 8.0 8
    (by decide +kernel) (by decide) (by decide)
  refine ⟨total, (seven.2 total.ge).1 value ends, ?_⟩
  obtain ⟨-, left, whole, final⟩ := eight.1 (total.trans_lt (by decide))
  rw [total] at whole
  exact ⟨left, whole, final⟩

end Session

end Reduct
