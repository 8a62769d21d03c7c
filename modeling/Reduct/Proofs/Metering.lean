import Reduct.Proofs.Run
import Reduct.Proofs.WholeNumber

namespace Reduct

/-- A balance affords charges when it is positive after each of them. -/
def Affords (balance : Float) : List Float → Prop
  | [] => True
  | amount :: rest => 0.0 < balance + amount ∧ Affords (balance + amount) rest

/-- The balance after some charges. -/
def spend (balance : Float) (amounts : List Float) : Float :=
  amounts.foldl (· + ·) balance

@[simp] theorem affords_nil (balance : Float) : Affords balance [] := trivial

@[simp] theorem spend_nil (balance : Float) : spend balance [] = balance := rfl

theorem spend_cons (balance amount : Float) (rest : List Float) :
    spend balance (amount :: rest) = spend (balance + amount) rest := rfl

theorem spend_append (balance : Float) (first second : List Float) :
    spend balance (first ++ second) = spend (spend balance first) second :=
  List.foldl_append

/-- Charges are afforded when the first part is, and then the second part. -/
theorem affords_append (balance : Float) (first second : List Float) :
    Affords balance (first ++ second) ↔
      Affords balance first ∧ Affords (spend balance first) second := by
  induction first generalizing balance with
  | nil => simp
  | cons amount rest inductionHypothesis =>
      rw [List.cons_append, Affords, Affords, inductionHypothesis, spend_cons, and_assoc]

/-- The state with a balance and without a deadline. -/
def State.holding (state : State) (balance : Float) : State :=
  state.withMeter ⟨balance, none⟩

/-- A state with a balance and without a deadline holds that balance. -/
theorem State.holding_of_meter {state : State} {balance : Float}
    (same : state.meter = ⟨balance, none⟩) : state.holding balance = state := by
  rw [State.holding, ← same, State.withMeter_self]

/-- A meter without a deadline asks for a positive balance alone. -/
theorem ok_transact_iff (amount balance : Float) (now : Nat) :
    (Meter.transact ⟨balance, none⟩ amount).ok now = true ↔ 0.0 < balance + amount := by
  rw [Meter.ok, Meter.transact, Option.all_none, Bool.and_true]
  exact decide_eq_true_iff

theorem on_charge_paid (amount balance : Float) (items : List Node) (state : State)
    (positive : 0.0 < balance + amount) :
    (Reduction.charge amount items).on (state.holding balance) =
      (.ok (), state.holding (balance + amount)) := by
  rw [Reduction.on_charge]
  exact if_pos ((ok_transact_iff amount balance _).mpr positive)

theorem on_charge_refused (amount balance : Float) (items : List Node) (state : State)
    (few : ¬ 0.0 < balance + amount) :
    (Reduction.charge amount items).on (state.holding balance) =
      (.error (.outOfGas (.list items)),
        (state.noting (.reductionFailed (.outOfGas (.list items)))).holding
          (balance + amount)) := by
  rw [Reduction.on_charge]
  exact if_neg fun enough => few ((ok_transact_iff amount balance _).mp enough)

/-- A limited result is the unlimited one, or the error of a spent budget. -/
def Cut {α : Type} (limited unlimited : Except Error α) : Prop :=
  limited = unlimited ∨ ∃ node, limited = .error (.outOfGas node)

/-- An error that cuts off a value is that of a spent budget. -/
theorem Cut.error_ok {α : Type} {error : Error} {value : α}
    (cut : Cut (.error error) (.ok value)) : ∃ node, error = .outOfGas node := by
  rcases cut with same | ⟨node, same⟩
  · cases same
  · exact ⟨node, Except.error.inj same⟩

theorem Cut.map {α β : Type} {limited unlimited : Except Error α} (change : α → β)
    (cut : Cut limited unlimited) : Cut (limited.map change) (unlimited.map change) := by
  rcases cut with rfl | ⟨node, rfl⟩
  · exact .inl rfl
  · exact .inr ⟨node, rfl⟩

/-- A reduction with some charges ends as if there were no meter when the balance affords them, and
otherwise is cut off with a balance that is not positive. -/
structure Metered {α : Type} (reduction : Reduction α) (state : State) (amounts : List Float)
    (result : Except Error α) (final : State) : Prop where
  paid : ∀ balance, Affords balance amounts →
    reduction.on (state.holding balance) = (result, final.holding (spend balance amounts))
  cut : ∀ balance, ¬ Affords balance amounts →
    ∃ (error : Error) (after : State) (left : Float),
      reduction.on (state.holding balance) = (.error error, after.holding left) ∧
        ¬ 0.0 < left ∧ Cut (.error error) result

namespace Metered

open Reduction

variable {α β : Type}

/-- A reduction that ignores the meter charges nothing. -/
theorem of_ignoresMeter {reduction : Reduction α} (ignores : reduction.IgnoresMeter)
    (state : State) :
    Metered reduction state [] (reduction.on state).1 (reduction.on state).2 where
  paid balance _ := ignores state ⟨balance, none⟩
  cut balance refused := absurd (affords_nil balance) refused

/-- Charges are read off an equal reduction. -/
theorem of_on_eq {reduction other : Reduction α} {state otherState : State}
    {amounts : List Float} {result : Except Error α} {final : State}
    (same : ∀ balance, reduction.on (state.holding balance) =
      other.on (otherState.holding balance))
    (metered : Metered other otherState amounts result final) :
    Metered reduction state amounts result final where
  paid balance afforded := (same balance).trans (metered.paid balance afforded)
  cut balance refused := by
    rw [same]
    exact metered.cut balance refused

/-- The balance of the state to start from does not matter. -/
theorem of_holding {reduction : Reduction α} {state : State} {balance : Float}
    {amounts : List Float} {result : Except Error α} {final : State}
    (metered : Metered reduction (state.holding balance) amounts result final) :
    Metered reduction state amounts result final where
  paid := metered.paid
  cut := metered.cut

/-- The charges of two reductions in a row are those of the first and then those of the second. -/
theorem bind_ok {reduction : Reduction α} {next : α → Reduction β} {state middle final : State}
    {first second : List Float} {value : α} {result : Except Error β}
    (before : Metered reduction state first (.ok value) middle)
    (after : Metered (next value) middle second result final) :
    Metered (reduction >>= next) state (first ++ second) result final where
  paid balance afforded := by
    rw [affords_append] at afforded
    rw [on_bind, before.paid balance afforded.1, spend_append]
    exact after.paid _ afforded.2
  cut balance refused := by
    rw [on_bind]
    by_cases afforded : Affords balance first
    · rw [before.paid balance afforded]
      apply after.cut
      intro rest
      exact refused ((affords_append balance first second).mpr ⟨afforded, rest⟩)
    · obtain ⟨error, stopped, left, equal, spent, cut⟩ := before.cut balance afforded
      obtain ⟨node, rfl⟩ := cut.error_ok
      rw [equal]
      exact ⟨_, stopped, left, rfl, spent, .inr ⟨node, rfl⟩⟩

/-- A failure ends the charges. -/
theorem bind_error {reduction : Reduction α} {next : α → Reduction β} {state final : State}
    {amounts : List Float} {error : Error}
    (before : Metered reduction state amounts (.error error) final) :
    Metered (reduction >>= next) state amounts (.error error) final where
  paid balance afforded := by rw [on_bind, before.paid balance afforded]
  cut balance refused := by
    obtain ⟨error, stopped, left, equal, spent, cut⟩ := before.cut balance refused
    rw [on_bind, equal]
    refine ⟨error, stopped, left, rfl, spent, ?_⟩
    rcases cut with same | ⟨node, same⟩
    · cases same
      exact .inl rfl
    · cases same
      exact .inr ⟨node, rfl⟩

theorem charge (amount : Float) (items : List Node) (state : State) :
    Metered (Reduction.charge amount items) state [amount] (.ok ()) state where
  paid balance afforded := on_charge_paid amount balance items state afforded.1
  cut balance refused := by
    have few : ¬ 0.0 < balance + amount := fun positive => refused ⟨positive, trivial⟩
    exact ⟨_, _, balance + amount, on_charge_refused amount balance items state few, few,
      .inr ⟨.list items, rfl⟩⟩

theorem chargeAll (amounts : List Float) (items : List Node) (state : State) :
    Metered (Reduction.chargeAll amounts items) state amounts (.ok ()) state := by
  induction amounts with
  | nil => exact of_ignoresMeter (.pure ()) state
  | cons amount rest inductionHypothesis =>
      exact bind_ok (charge amount items state) inductionHypothesis

end Metered

def cost (amounts : List Float) : Nat :=
  (amounts.map fun amount => (-((Number.integer? amount).getD 0)).toNat).sum

theorem cost_cons {amount : Float} {units : Nat} (rest : List Float)
    (whole : Number.integer? amount = some (-(units : Int))) :
    cost (amount :: rest) = units + cost rest := by
  simp [cost, whole]

/-- A whole balance affords whole charges that cost less, and keeps the difference. -/
theorem affords_iff {amounts : List Float} (charges : ∀ amount ∈ amounts, Number.IsCharge 0 amount)
    {balance : Float} {units : Nat} (whole : Number.integer? balance = some (units : Int))
    (positive : 0 < units) (small : units < 2 ^ 53) :
    (Affords balance amounts ↔ cost amounts < units) ∧
      (cost amounts < units →
        Number.integer? (spend balance amounts) = some ((units : Int) - cost amounts)) := by
  induction amounts generalizing balance units with
  | nil => simpa [cost, positive] using whole
  | cons amount rest inductionHypothesis =>
      obtain ⟨charged, -, amountWhole⟩ := charges amount (.head rest)
      rw [cost_cons rest amountWhole, Affords, spend_cons]
      by_cases enough : charged < units
      · have left : (units : Int) + -charged = (units - charged : Nat) := by omega
        have remaining := Number.integer?_add balance amount units (-charged) whole amountWhole
          (by omega) (by omega)
        rw [left] at remaining
        obtain ⟨afforded, balanced⟩ := inductionHypothesis
          (fun later member => charges later (.tail amount member)) remaining (by omega) (by omega)
        have first := (Number.zero_lt_of_integer? _ _ remaining).mpr (by omega)
        rw [afforded]
        constructor
        · constructor
          · rintro ⟨-, below⟩
            omega
          · intro below
            exact ⟨first, by omega⟩
        · intro below
          rw [balanced (by omega)]
          congr 1
          omega
      · have few := Number.not_zero_lt_add_of_integer? balance amount units (-charged) whole
          amountWhole (by omega)
        exact ⟨⟨fun afforded => absurd afforded.1 few, fun below => absurd below (by omega)⟩,
          fun below => absurd below (by omega)⟩

/-- The balance that no finite charge can change. -/
def endless : Float := 1.0 / 0.0

/-- Amounts that leave the endless balance above zero. -/
def Payable (amounts : List Float) : Prop :=
  ∀ amount ∈ amounts, 0.0 < endless + amount

/-- The endless balance affords payable amounts and no others, and does not change. -/
theorem affords_endless_iff (amounts : List Float) :
    (Affords endless amounts ↔ Payable amounts) ∧
      (Payable amounts → spend endless amounts = endless) := by
  induction amounts with
  | nil => simp [Payable]
  | cons amount rest inductionHypothesis =>
      by_cases positive : 0.0 < endless + amount
      · have same : endless + amount = endless := Number.infinite_add_of_zero_lt amount positive
        have payable : Payable (amount :: rest) ↔ Payable rest := by
          simp [Payable, positive]
        rw [payable, Affords, spend_cons, same, inductionHypothesis.1]
        exact ⟨and_iff_right Number.zero_lt_infinite, inductionHypothesis.2⟩
      · have unpayable : ¬ Payable (amount :: rest) := fun payable =>
          positive (payable amount (.head rest))
        exact ⟨iff_of_false (fun afforded => positive afforded.1) unpayable,
          fun payable => absurd payable unpayable⟩

theorem payable_append (first second : List Float) :
    Payable (first ++ second) ↔ Payable first ∧ Payable second :=
  List.forall_mem_append

/-- The endless balance affords all whole charges. -/
theorem affords_endless {amounts : List Float}
    (charges : ∀ amount ∈ amounts, Number.IsCharge 0 amount) :
    Affords endless amounts ∧ spend endless amounts = endless := by
  obtain ⟨affordable, unchanged⟩ := affords_endless_iff amounts
  have payable : Payable amounts := by
    intro amount charged
    have same : endless + amount = endless :=
      Number.infinite_add amount (charges amount charged).isFinite
    rw [same]
    exact Number.zero_lt_infinite
  exact ⟨affordable.mpr payable, unchanged payable⟩

/-- The session with a balance, or with an unlimited one, and without a deadline. -/
def Session.withBalance (session : Session) (balance : Option Float) : Session :=
  { session with
    state := session.state.withMeter (.start balance none session.state.world.now) }

end Reduct
