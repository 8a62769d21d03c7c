import Reduct.Proofs.Reduction

namespace Reduct

namespace Node

/-- Denesting keeps lists apart from other nodes. -/
@[simp] theorem isList_denest (node : Node) : node.denest.isList = node.isList := by
  fun_induction denest node with
  | case1 inner list inductionHypothesis => rw [inductionHypothesis, list, isList]
  | case2 inner other => rfl
  | case3 node other => rfl

/-- A list is denested to some items. -/
theorem exists_denest_list (items : List Node) : ∃ inner, denest (.list items) = .list inner := by
  have list := isList_denest (.list items)
  rcases equal : denest (.list items) with _ | _ | _ | _ | _ | inner | _
  all_goals rw [equal] at list
  all_goals simp [isList] at list
  exact ⟨inner, rfl⟩

/-- What is denested to a list is not null. -/
theorem isNull_of_denest {program : Node} {items : List Node}
    (denested : program.denest = .list items) : program.isNull = false := by
  cases program with
  | null => cases denested
  | _ => rfl

end Node

namespace Reduction

variable {α β : Type}

/-- A reduction that neither reads nor changes the meter. -/
def IgnoresMeter (reduction : Reduction α) : Prop :=
  ∀ (state : State) (meter : Meter),
    reduction.on (state.withMeter meter) =
      ((reduction.on state).1, (reduction.on state).2.withMeter meter)

namespace IgnoresMeter

/-- The meter is the same afterwards. -/
theorem meter_eq {reduction : Reduction α} (ignores : reduction.IgnoresMeter) (state : State) :
    (reduction.on state).2.meter = state.meter := by
  have same := ignores state state.meter
  rw [State.withMeter_self] at same
  rw [same, State.withMeter_meter]

theorem pure (value : α) : (Pure.pure value : Reduction α).IgnoresMeter := fun _ _ => rfl

theorem note (entry : Note) : (Reduction.note entry).IgnoresMeter := fun _ _ => rfl

theorem fail (error : Error) : (Reduction.fail error : Reduction α).IgnoresMeter := fun _ _ => rfl

theorem bind {reduction : Reduction α} {next : α → Reduction β} (first : reduction.IgnoresMeter)
    (second : ∀ value, (next value).IgnoresMeter) : (reduction >>= next).IgnoresMeter := by
  intro state meter
  rw [on_bind, on_bind, first state meter]
  rcases reduction.on state with ⟨error | value, after⟩
  · rfl
  · exact second value after meter

theorem orFail (result : Except Error α) : (Reduction.orFail result).IgnoresMeter := by
  cases result with
  | ok value => exact pure value
  | error error => exact fail error

theorem perform (action : Action α) : (Reduction.perform action).IgnoresMeter := by
  intro state meter
  rw [on_perform, on_perform]
  exact orFail _ { state with world := (action.run state.world).2 } meter

end IgnoresMeter

end Reduction

namespace Engine

open Reduction

variable (engine : Engine) (inputs : Inputs) (scope : Scope)

/-- The check of an arity has a result that no state changes. -/
theorem exists_checkArity_eq (name : String) (count : Nat) :
    ∃ result, engine.checkArity scope name count = orFail result := by
  unfold checkArity
  split_ifs
  · split
    · exact ⟨.ok (), rfl⟩
    · exact ⟨.error _, rfl⟩
  · exact ⟨.ok (), rfl⟩

/-- The check of a purity has a result that no state changes, or leaves a note. -/
theorem exists_checkPurity_eq (name : String) :
    (∃ result, engine.checkPurity scope name = orFail result) ∨
      ∃ entry, engine.checkPurity scope name = note entry := by
  unfold checkPurity
  split_ifs
  · exact .inl ⟨.error _, rfl⟩
  · exact .inr ⟨_, rfl⟩
  · exact .inl ⟨.ok (), rfl⟩
  · exact .inl ⟨.ok (), rfl⟩

/-- A name without a function has a result that no state changes. -/
theorem exists_invokeOther_eq (requested : String) (items arguments : List Node) :
    ∃ result, engine.invokeOther scope requested items arguments = orFail result := by
  unfold invokeOther
  split
  · exact ⟨_, rfl⟩
  · split
    · exact ⟨.ok _, rfl⟩
    · exact ⟨.ok _, rfl⟩

theorem ignoresMeter_checkArity (name : String) (count : Nat) :
    (engine.checkArity scope name count).IgnoresMeter := by
  obtain ⟨result, equal⟩ := engine.exists_checkArity_eq scope name count
  rw [equal]
  exact .orFail result

theorem ignoresMeter_checkPurity (name : String) :
    (engine.checkPurity scope name).IgnoresMeter := by
  obtain ⟨result, equal⟩ | ⟨entry, equal⟩ := engine.exists_checkPurity_eq scope name
  · rw [equal]
    exact .orFail result
  · rw [equal]
    exact .note entry

theorem ignoresMeter_invokeOther (requested : String) (items arguments : List Node) :
    (engine.invokeOther scope requested items arguments).IgnoresMeter := by
  obtain ⟨result, equal⟩ := engine.exists_invokeOther_eq scope requested items arguments
  rw [equal]
  exact .orFail result

/-- The library binds the preprocessor of every leading form. -/
theorem exists_preprocessor?_of_mem (program : List Node) :
    ∀ entry ∈ (engine.leadingForms program).1,
      ∃ name, engine.library.preprocessor? name .global = some entry.1 := by
  fun_induction Engine.leadingForms engine program with
  | case1 form rest preprocessor found forms program later inductionHypothesis =>
      obtain ⟨name, -, bound⟩ := Option.bind_eq_some_iff.mp found
      rintro entry (_ | ⟨_, member⟩)
      · exact ⟨name, bound⟩
      · rw [later] at inductionHypothesis
        exact inductionHypothesis entry member
  | case2 => simp
  | case3 => simp

theorem ignoresMeter_expandForms (context : Preprocessing)
    (forms : List (Preprocessor × List Node)) (program : List Node) :
    (expandForms context forms program).IgnoresMeter := by
  induction forms generalizing program with
  | nil => exact .pure program
  | cons form later inductionHypothesis =>
      exact .bind (.perform _) fun expanded => inductionHypothesis expanded

theorem ignoresMeter_preprocess (program : List Node) :
    (engine.preprocess inputs program).IgnoresMeter := by
  intro state meter
  exact ignoresMeter_expandForms _ (engine.leadingForms program).1 _ state meter

/-- Where there are no preprocessors a program has no leading forms. -/
theorem on_preprocess_unclaimed
    (unclaimed : ∀ name scope, engine.library.preprocessor? name scope = none)
    (program : List Node) (state : State) :
    (engine.preprocess inputs program).on state = (.ok program, state) := by
  have plain : engine.leadingForms program = ([], program) := by
    cases program with
    | nil => rfl
    | cons first rest =>
        cases first with
        | list form => simp [leadingForms, unclaimed]
        | _ => rfl
  simp only [preprocess, plain]
  rfl

theorem ignoresMeter_settle (program reduced : Node) :
    (engine.settle program reduced).IgnoresMeter := by
  unfold settle
  split
  · exact .pure _
  · dsimp only
    split_ifs
    · exact .bind (.note _) fun _ => .pure _
    · exact .pure _
  · exact .pure _

theorem ignoresMeter_callFunction (id : Nat) (requested name : String) (function : Function)
    (items : List Node) :
    (engine.callFunction inputs scope id requested name function items).IgnoresMeter :=
  .bind (engine.ignoresMeter_checkArity scope name _) fun _ =>
    .bind (engine.ignoresMeter_checkPurity scope name) fun _ => .perform _

/-- A list that is no sequence does not look at the meter once its charges are paid. -/
theorem ignoresMeter_reduceList (id : Nat) (items : List Node) (shape : Node.Shape)
    (single : shape ≠ .sequence) :
    (engine.reduceList inputs scope id items shape).IgnoresMeter := by
  cases shape with
  | quote => exact .pure _
  | call requested =>
      simp only [reduceList]
      split
      · exact engine.ignoresMeter_callFunction inputs scope id requested _ _ items
      · exact engine.ignoresMeter_invokeOther scope requested items _
  | empty => exact .pure _
  | sequence => exact absurd rfl single

/-- The program of the first pass ends with the arguments of the run. -/
def joined (appendArgv : Bool) (program : List Node) : Node :=
  .list (if appendArgv then program ++ inputs.argv else program)

/-- A pass over a list expands the leading forms of the denested list and reduces the rest. -/
theorem pass_list (appendArgv : Bool) (items inner : List Node)
    (denested : Node.denest (.list items) = .list inner) :
    engine.pass inputs scope appendArgv (.list items) =
      engine.preprocess inputs inner >>= fun expanded =>
        engine.branch inputs scope (joined inputs appendArgv expanded) := by
  simp only [pass, Node.isNull, denested]
  rfl

/-- A filled list without its nulls. -/
def compacted (items : List Node) : Node :=
  .list (items.filter fun item => !item.isNull)

/-- A filled list is done when it has stopped changing, and otherwise goes around again. -/
theorem settle_cons (program first : Node) (rest : List Node) :
    engine.settle program (.list (first :: rest)) =
      if engine.settings.irreducibleCheck && (compacted (first :: rest)).sameStructure program then
        (do note (.irreducible (compacted (first :: rest)))
            pure (.done (compacted (first :: rest))))
      else pure (.again (compacted (first :: rest))) := rfl

/-- Only a filled list goes around again. -/
theorem of_round_again {first : Bool} {program next : Node} {state after : State}
    (again : (engine.round inputs first program).on state = (.ok (.again next), after)) :
    ∃ (head : Node) (rest : List Node) (middle : State),
      (engine.pass inputs .global first program).on state = (.ok (.list (head :: rest)), middle) ∧
        next = compacted (head :: rest) ∧ after = middle ∧
        (engine.settings.irreducibleCheck = true →
          (compacted (head :: rest)).sameStructure program = false) := by
  obtain ⟨reduced, middle, passed, settled⟩ := on_bind_eq_ok again
  unfold settle at settled
  split at settled
  · cases settled
  · rename_i head rest
    refine ⟨head, rest, middle, passed, ?_⟩
    change (engine.settle program (.list (head :: rest))).on middle = _ at settled
    rw [settle_cons] at settled
    split_ifs at settled with unchanged
    · cases settled
    · cases settled
      refine ⟨rfl, rfl, ?_⟩
      simpa using unchanged
  · cases settled

/-- Further rounds follow a round that leaves a program. -/
def goOn (bound : Nat) : Settled → Reduction (Option Node)
  | .done value => pure (some value)
  | .again next => engine.rounds inputs bound false next

theorem rounds_succ (bound : Nat) (first : Bool) (program : Node) :
    engine.rounds inputs (bound + 1) first program =
      engine.round inputs first program >>= engine.goOn inputs bound := by
  rw [rounds]
  congr 1

/-- Rounds end within a bound when each round that leaves a program to do lowers a measure. -/
theorem rounds_end (invariant : State → Prop) (measure : Bool → Node → State → Nat)
    (lowers : ∀ first program state next after, invariant state →
      (engine.round inputs first program).on state = (.ok (.again next), after) →
        invariant after ∧ measure false next after < measure first program state)
    (bound : Nat) (first : Bool) (program : Node) (state : State) (holds : invariant state)
    (enough : measure first program state < bound) :
    ((engine.rounds inputs bound first program).on state).1 ≠ .ok none := by
  induction bound generalizing first program state with
  | zero => omega
  | succ bound inductionHypothesis =>
      rw [rounds_succ, on_bind]
      rcases outcome : (engine.round inputs first program).on state with
        ⟨error | value | next, after⟩
      · simp
      · change (.ok (some value) : Except Error (Option Node)) ≠ _
        simp
      · obtain ⟨kept, less⟩ := lowers first program state next after holds outcome
        exact inductionHypothesis false next after kept (by omega)

def opened (program : Node) (state : State) : State :=
  if engine.settings.preflightCheck then
    (engine.library.preflight program).foldl (fun state name => state.noting (.undefinedName name))
      { state with counter := 0 }
  else { state with counter := 0 }

theorem on_forM_note (names : List String) (state : State) :
    (names.forM fun name => Reduction.note (.undefinedName name)).on state =
      (.ok (), names.foldl (fun state name => state.noting (.undefinedName name)) state) := by
  induction names generalizing state with
  | nil => rfl
  | cons name rest inductionHypothesis =>
      change (Reduction.note (.undefinedName name) >>= fun _ =>
        rest.forM fun name => Reduction.note (.undefinedName name)).on state = _
      rw [on_bind, on_note]
      exact inductionHypothesis _

theorem foldl_noting_withMeter (names : List String) (state : State) (meter : Meter) :
    names.foldl (fun state name => state.noting (.undefinedName name)) (state.withMeter meter) =
      (names.foldl (fun state name => state.noting (.undefinedName name)) state).withMeter
        meter := by
  induction names generalizing state with
  | nil => rfl
  | cons name rest inductionHypothesis => exact inductionHypothesis (state.noting _)

@[simp] theorem opened_withMeter (program : Node) (state : State) (meter : Meter) :
    engine.opened program (state.withMeter meter) =
      (engine.opened program state).withMeter meter := by
  unfold opened
  split_ifs
  · exact foldl_noting_withMeter _ { state with counter := 0 } meter
  · rfl

@[simp] theorem opened_meter (program : Node) (state : State) :
    (engine.opened program state).meter = state.meter := by
  have same := engine.opened_withMeter program state state.meter
  rw [State.withMeter_self] at same
  rw [same, State.withMeter_meter]

/-- A run goes its rounds from the opened state. -/
theorem on_run (bound : Nat) (program : Node) (state : State) :
    (engine.run inputs bound program).on state =
      (engine.rounds inputs bound true program).on (engine.opened program state) := by
  unfold run opened
  split_ifs
  · change ((engine.library.preflight program).forM
      (fun name => Reduction.note (.undefinedName name)) >>= fun _ =>
        engine.rounds inputs bound true program).on { state with counter := 0 } = _
    rw [on_bind, on_forM_note]
  · rfl

end Engine

/-- A run of a session is a run of its engine in its state. -/
theorem Session.run_eq (session : Session) (inputs : Inputs) (bound : Nat) (program : Node) :
    session.run inputs bound program =
      let outcome := (session.engine.rounds inputs bound true program).on
        (session.engine.opened program session.state)
      (outcome.1, { session with state := outcome.2 }) := by
  rw [← Engine.on_run]
  rfl

end Reduct
