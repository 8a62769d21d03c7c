import Reduct.Proofs.ListFunctions
import Reduct.Proofs.Steps
/-! This file shows that a series performs its steps in their order. It keeps the steps that are
left on a stack: one pass takes the next step from the stack, and the pass after it calls the
step. -/

namespace Reduct

namespace Standard

def seriesOf (steps : List Step) : Node :=
  .list (.string "series" :: steps.map fun step => .quote step.toNode)

/-- The names under which a series calls the standard library. -/
def seriesNames : List String :=
  ["series", "stack"]

/-- The steps that are left, and the value of the previous one unless it is null. -/
def stacked (steps : List Step) (previous : Node) : Node :=
  .list (.string "stack" :: .quotedList (steps.map Step.toNode) ::
    [previous].filter (!·.isNull))

/-- The steps that are left while a step is called. -/
def stackAround (later : List Step) : Enclosure where
  name := "stack"
  before := [.quotedList (later.map Step.toNode)]
  after := []
  unquoted := by decide
  plainBefore := List.forall_mem_singleton.mpr rfl
  plainAfter := Enclosure.unlisted_nil

theorem mem_bindings_series : yields "series" .any
    (fun arguments => .list [.string "stack", .quotedList arguments]) ∈ bindings := by
  simp only [bindings, control, List.mem_append, List.mem_cons, true_or, or_true]

theorem mem_bindings_stack : computes "stack" (.ofTags ["list", "..."]) stack ∈ bindings := by
  simp only [bindings, control, List.mem_append, List.mem_cons, true_or, or_true]

end Standard

namespace Engine

open Deed Standard

def stackAmounts (engine : Engine) : List Step → List Float
  | [] => [engine.settings.invokeAmount]
  | step :: later =>
    [engine.settings.invokeAmount] ++
      ((engine.settings.sequenceAmount * Float.ofNat 3 :: engine.settings.invokeAmount ::
        engine.priceCharges .global step.name) ++ stackAmounts engine later)

def seriesAmounts (engine : Engine) (steps : List Step) : List Float :=
  [engine.settings.invokeAmount] ++ engine.stackAmounts steps

variable {engine : Engine} {inputs : Inputs} {steps later : List Step} {step : Step}
  {previous : Node}

theorem weight_stacked (plain : previous.isPlain = true) (steps : List Step) :
    (stacked steps previous).weight ≤ 5 := by
  have least := Node.weight_of_isPlain plain
  have kept := Node.weights_filter_le (!·.isNull) [previous]
  rw [Node.weights, Node.weights] at kept
  simp only [stacked, Node.quotedList, Node.weight, Node.weights]
  omega

theorem weight_stackAround (later : List Step) (inner : Node) :
    ((stackAround later).around inner).weight = 4 + inner.weight := by
  simp only [Enclosure.around, Enclosure.items, stackAround, Node.quotedList, List.cons_append,
    List.nil_append, Node.weight, Node.weights]
  omega

/-- What the rest of a stack holds is handed to its function as it is. -/
theorem arguments_stacked (plain : previous.isPlain = true) (steps : List Step) :
    engine.arguments .global (.string "stack" :: .quotedList (steps.map Step.toNode) ::
        [previous].filter (!·.isNull)) =
      .list (steps.map Step.toNode) :: [previous].filter (!·.isNull) := by
  rw [arguments, List.drop_one, List.tail_cons, List.map_cons]
  refine congrArg _ ((List.map_congr_left fun item member => ?_).trans (List.map_id _))
  obtain rfl := List.mem_singleton.mp (List.mem_of_mem_filter member)
  exact Node.valueOf_of_isPlain plain _ _

/-- The items behind the name of a stack are ready. -/
theorem isValue_stacked (plain : previous.isPlain = true) (steps : List Step) :
    ∀ item ∈ .quotedList (steps.map Step.toNode) :: [previous].filter (!·.isNull),
      item.isValue = true := by
  refine List.forall_mem_cons.mpr ⟨rfl, fun item member => ?_⟩
  obtain rfl := List.mem_singleton.mp (List.mem_of_mem_filter member)
  exact Node.isValue_of_isPlain plain

section

variable (extended : engine.library.ExtendsStandard)

include extended

/-- The first pass of a series leaves its steps on a stack. -/
theorem rewrites_series (steps : List Step) :
    engine.Rewrites inputs seriesNames (seriesOf steps) (stacked steps .null) := by
  have given : engine.arguments .global
      (.string "series" :: steps.map fun step => .quote step.toNode) = steps.map Step.toNode := by
    rw [arguments, List.drop_one, List.tail_cons, List.map_map]
    rfl
  refine rewrites_computes extended mem_bindings_series (by decide) (by decide) ?_ given rfl rfl
  simp [Node.isValue]

theorem charges_series (steps : List Step) :
    engine.charges .global (seriesOf steps) = [engine.settings.invokeAmount] := by
  rw [seriesOf, charges_call (Node.shape_call (by decide) ?_),
    priceCharges_offered (offers_of_mem extended mem_bindings_series)]
  simp [Node.isValue]

theorem charges_stacked (plain : previous.isPlain = true) (steps : List Step) :
    engine.charges .global (stacked steps previous) = [engine.settings.invokeAmount] := by
  rw [stacked, charges_call (Node.shape_call (by decide) (isValue_stacked plain steps)),
    priceCharges_offered (offers_of_mem extended mem_bindings_stack)]

/-- A stack without steps is the value of the previous step. -/
theorem rewrites_stacked_nil (plain : previous.isPlain = true) :
    engine.Rewrites inputs seriesNames (stacked [] previous) (.quote previous) := by
  refine rewrites_computes extended mem_bindings_stack (by decide) (by decide)
    (isValue_stacked plain []) (arguments_stacked plain []) ?_ ?_
  all_goals cases previous <;> rfl

/-- A stack hands out its first step. -/
theorem rewrites_stacked_cons (plain : previous.isPlain = true) (step : Step)
    (later : List Step) :
    engine.Rewrites inputs seriesNames (stacked (step :: later) previous)
      ((stackAround later).around step.toNode) := by
  refine rewrites_computes extended mem_bindings_stack (by decide) (by decide)
    (isValue_stacked plain (step :: later)) (arguments_stacked plain (step :: later)) ?_ rfl
  cases previous <;> rfl

theorem closes_stackAround (later : List Step) : engine.Closes (stackAround later) :=
  (offers_of_mem extended mem_bindings_stack).closed

theorem charges_stackAround (later : List Step)
    (admitted : ∃ function, engine.Admits step.name function step.arguments.length) :
    engine.charges .global ((stackAround later).around step.toNode) =
      engine.settings.sequenceAmount * Float.ofNat 3 :: engine.settings.invokeAmount ::
        engine.priceCharges .global step.name := by
  obtain ⟨function, admits⟩ := admitted
  rw [charges_around (closes_stackAround extended later) rfl, Step.toNode,
    charges_call (Node.shape_call admits.unquoted step.isValue_arguments)]
  rfl

/-- No step of a series is a series or a stack itself: their answers are not plain. -/
theorem not_mem_seriesNames {deed : Deed} (calls : deed.Calls step) {value : Node}
    {world : World} (answers : engine.answer? deed = some (.ok value, world))
    (plain : value.isPlain = true) : step.name ∉ seriesNames := by
  obtain ⟨before, act⟩ := deed
  obtain ⟨call, rfl, named, scope⟩ := calls
  rw [answer?_call, named, scope] at answers
  intro member
  rcases List.mem_pair.mp member with series | stack
  · rw [series, (offers_of_mem extended mem_bindings_series).bound] at answers
    cases answers
    cases plain
  · rw [stack, (offers_of_mem extended mem_bindings_stack).bound] at answers
    rw [Step.arguments] at answers
    cases numbers : step.numbers <;> rw [numbers] at answers <;> cases answers

end

section

variable (noArguments : inputs.argv = []) (extended : engine.library.ExtendsStandard)

include noArguments extended

/-- A pass over a stack hands out its first step. -/
theorem watchRounds_stacked (plain : previous.isPlain = true)
    (payable : Payable [engine.settings.invokeAmount]) (step : Step) (later : List Step)
    (limit : Nat) (first : Bool) (state : State) :
    ∃ (middle : State) (log : List Deed), middle.world.storage = state.world.storage ∧
      besides seriesNames log = [] ∧
      engine.watchRounds inputs (limit + 1) first (stacked (step :: later) previous)
          (state.holding endless) =
        let next := engine.watchRounds inputs limit false
          ((stackAround later).around step.toNode) (middle.holding endless)
        ⟨next.result, next.state, log ++ next.log⟩ := by
  obtain ⟨middle, log, branched, only, storage⟩ :=
    rewrites_stacked_cons extended plain step later
      (by rwa [charges_stacked extended plain]) state
  have full : compacted ((stackAround later).items step.toNode) =
      (stackAround later).around step.toNode := by
    simp [compacted, Enclosure.around, Enclosure.items, stackAround, Node.quotedList, Step.toNode,
      Node.isNull]
  have heavier : ((stackAround later).around step.toNode).weight ≠
      (stacked (step :: later) previous).weight := by
    have light := weight_stacked plain (step :: later)
    have heavy := step.weight_toNode
    rw [weight_stackAround]
    omega
  have settles : engine.settle (stacked (step :: later) previous)
      ((stackAround later).around step.toNode) = pure (.again _) :=
    settle_reweighed (by simp [Enclosure.items]) (by rwa [full])
  rw [full] at settles
  exact ⟨middle, log, storage, besides_eq_nil only,
    watchRounds_again noArguments branched settles limit⟩

/-- A pass over a step that the stack has handed out calls the step. -/
theorem watchRounds_stackAround
    (admitted : ∃ function, engine.Admits step.name function step.arguments.length)
    (payable : Payable (engine.charges .global ((stackAround later).around step.toNode)))
    (limit : Nat) (first : Bool) (state : State)
    (answered : engine.AnswersAll [step] (engine.watchRounds inputs (limit + 1) first
      ((stackAround later).around step.toNode) (state.holding endless)).log) :
    ∃ (deed : Deed) (value : Node) (after : State) (log : List Deed), deed.Calls step ∧
      deed.world.storage = state.world.storage ∧
      engine.answer? deed = some (.ok value, after.world) ∧ value.isPlain = true ∧
      besides seriesNames log = [deed] ∧
      engine.watchRounds inputs (limit + 1) first ((stackAround later).around step.toNode)
          (state.holding endless) =
        let next := engine.watchRounds inputs limit false (stacked later value)
          (after.holding endless)
        ⟨next.result, next.state, log ++ next.log⟩ := by
  obtain ⟨function, admits⟩ := admitted
  rw [charges_around (closes_stackAround extended later) rfl, payable_cons] at payable
  have unready : step.toNode.isValue = false := rfl
  obtain ⟨charges, free, around⟩ := watchBranch_around inputs (closes_stackAround extended later)
    unready payable.1 state
  obtain ⟨paid, deed, unpaid, calls, storage, logged, answers⟩ :=
    watchBranch_step admits inputs payable.2
      (engine.entered .global ((stackAround later).items step.toNode) state)
  have member : deed ∈ (engine.watchBranch inputs .global
      ((stackAround later).around step.toNode) (state.holding endless)).log := by
    rw [around]
    dsimp only
    rw [logged]
    simp
  obtain ⟨value, world, answer, plain⟩ := answered deed
    (mem_log_watchRounds noArguments member limit) step (List.mem_singleton_self step) calls
  obtain ⟨after, rfl, reduced⟩ := answers value world answer
  rw [reduced] at around
  have left : compacted ((stackAround later).items value) = stacked later value := by
    rw [compacted, Enclosure.items, List.filter_cons_of_pos (by rfl)]
    rfl
  have lighter : (stacked later value).weight ≠
      ((stackAround later).around step.toNode).weight := by
    have light := weight_stacked plain later
    have heavy := step.weight_toNode
    rw [weight_stackAround]
    omega
  have settles : engine.settle ((stackAround later).around step.toNode)
      ((stackAround later).around value) = pure (.again _) :=
    settle_reweighed (by simp [Enclosure.items]) (by rwa [left])
  rw [left] at settles
  refine ⟨deed, value, after, _, calls, ?_, answer, plain, ?_,
    watchRounds_again noArguments around settles limit⟩
  · exact storage.trans (still_entered .global _ state).memory.storage
  · rw [besides_append, besides_append, besides_eq_nil (invokesOnly_of_nil _ free),
      besides_eq_nil (invokesOnly_of_nil _ unpaid),
      calls.besides (not_mem_seriesNames extended calls answer plain)]
    rfl

/-- A stack of steps performs them in their order and ends with the value of the last one, once its
charges are payable or its rounds are known not to fail. -/
theorem performs_stacked (admitted : engine.AdmitsAll steps) (plain : previous.isPlain = true)
    (spare : Nat) (first : Bool) (state : State)
    (answered : engine.AnswersAll steps (engine.watchRounds inputs
      (spare + 2 * steps.length + 1) first (stacked steps previous) (state.holding endless)).log)
    (affords : engine.Affords inputs (spare + 2 * steps.length + 1) first
      (stacked steps previous) state (engine.stackAmounts steps)) :
    Payable (engine.stackAmounts steps) ∧
      ∃ (values : List Node) (after : State) (log : List Deed),
        engine.watchRounds inputs (spare + 2 * steps.length + 1) first (stacked steps previous)
            (state.holding endless) = ⟨.ok (previous :: values).getLast?, after, log⟩ ∧
          engine.Performs state.world.storage steps (besides seriesNames log) values
            after.world.storage := by
  induction steps generalizing previous first state with
  | nil =>
      rw [stackAmounts, ← charges_stacked extended plain []] at affords ⊢
      rw [← List.append_nil (engine.charges _ _)] at affords
      have payable := affords.payable noArguments
      obtain ⟨after, log, branched, only, storage⟩ := rewrites_stacked_nil extended plain
        payable state
      have ran : engine.watchRounds inputs (spare + 1) first (stacked [] previous)
          (state.holding endless) = ⟨.ok (some previous), after.holding endless, log⟩ :=
        watchRounds_done noArguments branched rfl spare
      refine ⟨payable, [], _, log, ran, ?_⟩
      rw [besides_eq_nil only, ← storage]
      exact .nil _
  | cons step later inductionHypothesis =>
      obtain ⟨admits, others⟩ := List.forall_mem_cons.mp admitted
      have passes : spare + 2 * (step :: later).length + 1 =
          spare + 2 * later.length + 1 + 1 + 1 := by
        rw [List.length_cons]
        omega
      rw [passes] at answered affords ⊢
      rw [stackAmounts, ← charges_stacked extended plain (step :: later),
        ← charges_stackAround extended later admits] at affords ⊢
      -- The first round takes the step from the stack.
      have invoke := affords.payable noArguments
      obtain ⟨middle, handed, kept, silent, taken⟩ := watchRounds_stacked noArguments extended plain
        (charges_stacked extended plain _ ▸ invoke) step later (spare + 2 * later.length + 1 + 1)
        first state
      have affordsStep : engine.Affords inputs (spare + 2 * later.length + 1 + 1) false
          ((stackAround later).around step.toNode) middle _ := affords.next (by rw [taken])
      rw [taken] at answered ⊢
      -- The second round calls the step.
      have sequence := affordsStep.payable noArguments
      obtain ⟨deed, value, after, called, calls, storage, answer, ready, alone, reduced⟩ :=
        watchRounds_stackAround noArguments extended admits sequence
          (spare + 2 * later.length + 1) false middle
          (answered.mono (by simp) (List.subset_append_right _ _))
      have affordsLater : engine.Affords inputs (spare + 2 * later.length + 1) false
          (stacked later value) after _ := affordsStep.next (by rw [reduced])
      rw [reduced] at answered ⊢
      obtain ⟨payable, values, final, log, ran, performs⟩ :=
        inductionHypothesis others ready false after
          (answered.mono (List.subset_cons_self _ _)
            (fun _ member => List.mem_append_right _ (List.mem_append_right _ member)))
          affordsLater
      refine ⟨?_, value :: values, final, handed ++ (called ++ log), ?_, ?_⟩
      · exact (payable_append _ _).mpr ⟨invoke, (payable_append _ _).mpr ⟨sequence, payable⟩⟩
      · rw [ran]
        rfl
      · rw [besides_append, besides_append, silent, alone, ← kept, ← storage]
        exact .cons calls answer performs

/-- A series performs its steps in their order and ends with the value of the last one, once its
charges are payable or its rounds are known not to fail. -/
theorem performs_series (filled : steps ≠ []) (admitted : engine.AdmitsAll steps) (spare : Nat)
    (first : Bool) (state : State)
    (answered : engine.AnswersAll steps (engine.watchRounds inputs
      (spare + 2 * steps.length + 1 + 1) first (seriesOf steps) (state.holding endless)).log)
    (affords : engine.Affords inputs (spare + 2 * steps.length + 1 + 1) first (seriesOf steps) state
      (engine.seriesAmounts steps)) :
    Payable (engine.seriesAmounts steps) ∧
      ∃ (values : List Node) (after : State) (log : List Deed),
        engine.watchRounds inputs (spare + 2 * steps.length + 1 + 1) first (seriesOf steps)
            (state.holding endless) = ⟨.ok values.getLast?, after, log⟩ ∧
          engine.Performs state.world.storage steps (besides seriesNames log) values
            after.world.storage := by
  rw [seriesAmounts, ← charges_series extended steps] at affords ⊢
  have invoke := affords.payable noArguments
  obtain ⟨middle, log, branched, only, kept⟩ := rewrites_series extended steps invoke state
  have settles : engine.settle (seriesOf steps) (stacked steps .null) =
      pure (.again (stacked steps .null)) := settle_renamed (by decide) _ _
  have taken : engine.watchRounds inputs (spare + 2 * steps.length + 1 + 1) first
      (seriesOf steps) (state.holding endless) = _ :=
    watchRounds_again noArguments branched settles (spare + 2 * steps.length + 1)
  have affordsStack : engine.Affords inputs (spare + 2 * steps.length + 1) false
      (stacked steps .null) middle _ := affords.next (by rw [taken])
  rw [taken] at answered ⊢
  obtain ⟨payable, values, after, later, ran, performs⟩ := performs_stacked noArguments extended
    admitted rfl spare false middle (answered.mono (List.Subset.refl _)
      (List.subset_append_right _ _)) affordsStack
  refine ⟨(payable_append _ _).mpr ⟨invoke, payable⟩, values, after, log ++ later, ?_, ?_⟩
  · rw [ran]
    have some : values ≠ [] := by
      rw [← List.length_pos_iff, performs.length_eq]
      exact List.length_pos_iff.mpr filled
    rw [List.getLast?_cons_of_ne_nil some]
  · rw [besides_append, besides_eq_nil only, ← kept]
    exact performs

end

end Engine

namespace Session

open Deed Standard

/-- An unlimited balance lets a series call each of its steps once and in their order, each in the
store that the one before it left, and answer with the value of the last one. It does so exactly
when it can pay the charges: none of them is minus infinity or no number. -/
theorem payable_iff_series_performs (session : Session) (inputs : Inputs) (steps : List Step)
    (limit : Nat) (filled : steps ≠ []) (noArguments : inputs.argv = [])
    (extended : session.engine.library.ExtendsStandard)
    (admitted : session.engine.AdmitsAll steps) (enough : 2 * steps.length + 2 ≤ limit)
    (answered : session.engine.AnswersAll steps
      ((session.withBalance none).runLog inputs limit (seriesOf steps))) :
    Payable (session.engine.seriesAmounts steps) ↔
      ∃ values,
        ((session.withBalance none).run inputs limit (seriesOf steps)).1 = .ok values.getLast? ∧
          session.engine.Performs session.storage steps
            (besides seriesNames ((session.withBalance none).runLog inputs limit (seriesOf steps)))
            values ((session.withBalance none).run inputs limit (seriesOf steps)).2.storage := by
  obtain ⟨spare, rfl⟩ := Nat.exists_eq_add_of_le' enough
  obtain ⟨result, storage, log⟩ :=
    session.run_unlimited inputs (spare + (2 * steps.length + 2)) (seriesOf steps)
  rw [log] at answered ⊢
  rw [result, storage]
  have opened : (session.engine.opened (seriesOf steps) session.state).world.storage =
      session.storage := (Engine.still_opened (seriesOf steps) session.state).memory.storage
  have performs := Engine.performs_series noArguments extended filled admitted spare true
    (session.engine.opened (seriesOf steps) session.state) answered
  constructor
  · intro payable
    obtain ⟨-, values, after, log, ran, performed⟩ := performs (.inl payable)
    refine ⟨values, ?_, ?_⟩
    · exact congrArg Outcome.result ran
    · rw [← opened]
      exact ran ▸ performed
  · rintro ⟨values, ran, -⟩
    exact (performs (.inr ⟨_, ran⟩)).1

/-- Of two numbers that a series puts into the store, the second one stays there. -/
theorem series_puts :
    ((recording.withBalance none).run ⟨[], none⟩ 6
        (seriesOf [⟨"put", [1.0]⟩, ⟨"put", [2.0]⟩])).1 = .ok (some (.number 2.0)) ∧
      ((recording.withBalance none).run ⟨[], none⟩ 6
        (seriesOf [⟨"put", [1.0]⟩, ⟨"put", [2.0]⟩])).2.storage = ⟨[("last", .number 2.0)]⟩ := by
  have applies : ∀ step ∈ [(⟨"put", [1.0]⟩ : Step), ⟨"put", [2.0]⟩], ∃ value,
      recording.engine.Applies step.name step.arguments value ∧ value.isPlain = true :=
    List.forall_mem_cons.mpr ⟨⟨_, applies_put 1.0, rfl⟩,
      List.forall_mem_singleton.mpr ⟨_, applies_put 2.0, rfl⟩⟩
  have payable : Payable (recording.engine.seriesAmounts [⟨"put", [1.0]⟩, ⟨"put", [2.0]⟩]) := by
    rw [Engine.seriesAmounts, Engine.stackAmounts, Engine.stackAmounts, Engine.stackAmounts,
      Engine.priceCharges_offered (offers_recording (.head _))]
    unfold Payable
    decide +kernel
  obtain ⟨values, ran, performs⟩ := (payable_iff_series_performs recording ⟨[], none⟩
    [⟨"put", [1.0]⟩, ⟨"put", [2.0]⟩] 6 (by simp) rfl extendsStandard_recording
    (Engine.admitsAll_of_applies applies) (le_refl 6)
    (Engine.answersAll_of_applies applies _)).mp payable
  obtain ⟨_, first, _, _, _, -, rfl, one, answers, performs⟩ := performs.exists_of_cons
  obtain ⟨_, second, world, _, _, -, rfl, two, answered, performs⟩ := performs.exists_of_cons
  obtain ⟨-, rfl, stored⟩ := performs.eq_of_nil
  rw [answer?_put two] at answered
  cases answered
  exact ⟨ran, stored⟩

/-- A finite amount that overflows when it is charged for each item keeps an unlimited balance from
a series of two steps. -/
theorem series_never_performed :
    (standing { sequenceAmount := -1e308 }).engine.AdmitsAll
        [⟨"math.abs", [-1.0]⟩, ⟨"math.abs", [2.0]⟩] ∧
      ∀ value, (((standing { sequenceAmount := -1e308 }).withBalance none).run ⟨[], none⟩ 6
        (seriesOf [⟨"math.abs", [-1.0]⟩, ⟨"math.abs", [2.0]⟩])).1 ≠ .ok (some value) := by
  have applies : ∀ step ∈ [(⟨"math.abs", [-1.0]⟩ : Step), ⟨"math.abs", [2.0]⟩], ∃ value,
      (standing { sequenceAmount := -1e308 }).engine.Applies step.name step.arguments value ∧
        value.isPlain = true :=
    List.forall_mem_cons.mpr ⟨⟨_, applies_abs _ (-1.0), rfl⟩,
      List.forall_mem_singleton.mpr ⟨_, applies_abs _ 2.0, rfl⟩⟩
  refine ⟨Engine.admitsAll_of_applies applies, fun value ran => ?_⟩
  have noArguments : (⟨[], none⟩ : Inputs).argv = [] := rfl
  rw [(run_unlimited _ _ _ _).1] at ran
  obtain ⟨payable, -⟩ := Engine.performs_series noArguments extendsStandard_library (by simp)
    (Engine.admitsAll_of_applies applies) 0 true _ (Engine.answersAll_of_applies applies _)
    (.inr ⟨_, ran⟩)
  rw [Engine.seriesAmounts, Engine.stackAmounts] at payable
  have positive := payable (-1e308 * Float.ofNat 3)
    (List.mem_append_right _ (List.mem_append_right _ (List.mem_append_left _ (.head _))))
  revert positive
  decide +kernel

end Session

end Reduct
