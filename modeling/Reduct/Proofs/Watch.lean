import Reduct.Proofs.Walk

namespace Reduct

/-- The acts of a reduction that are watched. -/
inductive Act where
  | charge (amount : Float) (paid : Bool)
  | call (call : Call) (arguments : List Node)
  | resume (call : Call) (arguments : List Node) (portion : Action Node)
  | cast (name : String) (scope : Scope) (arguments : List Node)

/-- A deed is an act in the world before it. -/
structure Deed where
  world : World
  act : Act

/-- The result of a watched reduction, the state after it, and its deeds. -/
structure Outcome (α : Type) where
  result : Except Error α
  state : State
  log : List Deed

/-- A watched reduction also logs its deeds. -/
def Watched (α : Type) := State → Outcome α

namespace Watched

open Reduction

variable {α β : Type}

/-- The reduction that is watched. -/
def unwatched (watched : Watched α) : Reduction α :=
  fun state => ((watched state).result, (watched state).state)

/-- A reduction without deeds. -/
def silent (reduction : Reduction α) : Watched α :=
  fun state => ⟨(reduction.on state).1, (reduction.on state).2, []⟩

/-- A reduction that is one deed. -/
def doing (act : Act) (reduction : Reduction α) : Watched α :=
  fun state => ⟨(reduction.on state).1, (reduction.on state).2, [⟨state.world, act⟩]⟩

/-- The deeds of the second part follow those of the first, unless that one fails. -/
def bind (watched : Watched α) (next : α → Watched β) : Watched β :=
  fun state =>
    match watched state with
    | ⟨.ok value, middle, log⟩ =>
      ⟨(next value middle).result, (next value middle).state, log ++ (next value middle).log⟩
    | ⟨.error error, middle, log⟩ => ⟨.error error, middle, log⟩

instance : Monad Watched where
  pure value := silent (pure value)
  bind := bind

/-- A failure is a result as well. -/
def attempt (watched : Watched α) : Watched (Except Error α) :=
  fun state => ⟨.ok (watched state).result, (watched state).state, (watched state).log⟩

/-- A charge is paid when the meter goes on after it. -/
def charge (amount : Float) (items : List Node) : Watched Unit :=
  fun state =>
    doing (.charge amount ((state.meter.transact amount).ok state.world.now))
      (Reduction.charge amount items) state

def chargeAll : List Float → List Node → Watched Unit
  | [], _ => pure ()
  | amount :: rest, items => do
    charge amount items
    chargeAll rest items

theorem on_unwatched (watched : Watched α) (state : State) :
    watched.unwatched.on state = ((watched state).result, (watched state).state) := rfl

@[simp] theorem unwatched_silent (reduction : Reduction α) :
    (silent reduction).unwatched = reduction := rfl

@[simp] theorem unwatched_doing (act : Act) (reduction : Reduction α) :
    (doing act reduction).unwatched = reduction := rfl

@[simp] theorem unwatched_charge (amount : Float) (items : List Node) :
    (charge amount items).unwatched = Reduction.charge amount items := rfl

@[simp] theorem pure_apply (value : α) (state : State) :
    (pure value : Watched α) state = ⟨.ok value, state, []⟩ := rfl

theorem bind_ok {watched : Watched α} {state middle : State} {value : α} {log : List Deed}
    (first : watched state = ⟨.ok value, middle, log⟩) (next : α → Watched β) :
    (watched >>= next) state =
      ⟨(next value middle).result, (next value middle).state, log ++ (next value middle).log⟩ := by
  change bind watched next state = _
  rw [bind, first]

theorem bind_error {watched : Watched α} {state middle : State} {error : Error} {log : List Deed}
    (first : watched state = ⟨.error error, middle, log⟩) (next : α → Watched β) :
    (watched >>= next) state = ⟨.error error, middle, log⟩ := by
  change bind watched next state = _
  rw [bind, first]

instance : LawfulMonad Watched := by
  refine LawfulMonad.mk' Watched ?_ ?_ ?_
  · intro α watched
    funext state
    change (watched >>= fun value => pure (id value)) state = watched state
    rcases outcome : watched state with ⟨error | value, middle, log⟩
    · rw [bind_error outcome]
    · rw [bind_ok outcome, pure_apply, List.append_nil]
      rfl
  · intro α β value next
    funext state
    rw [bind_ok (pure_apply value state), List.nil_append]
  · intro α β γ watched next further
    funext state
    rcases outcome : watched state with ⟨error | value, middle, log⟩
    · rw [bind_error outcome, bind_error (bind_error outcome next)]
    · have first := bind_ok outcome next
      rw [bind_ok outcome]
      rcases continued : next value middle with ⟨error | result, after, others⟩
      all_goals rw [continued] at first
      · rw [bind_error first, bind_error continued]
      · rw [bind_ok first, bind_ok continued, List.append_assoc]

/-- A charge after which the meter goes on is paid. -/
theorem charge_paid {amount : Float} {state : State}
    (paid : (state.meter.transact amount).ok state.world.now = true) (items : List Node) :
    charge amount items state =
      ⟨.ok (), state.withMeter (state.meter.transact amount),
        [⟨state.world, .charge amount true⟩]⟩ := by
  rw [charge, doing, on_charge, if_pos paid, paid]

/-- A charge after which the meter stops is refused. -/
theorem charge_refused {amount : Float} {state : State}
    (refused : (state.meter.transact amount).ok state.world.now = false) (items : List Node) :
    charge amount items state =
      ⟨.error (.outOfGas (.list items)),
        (state.withMeter (state.meter.transact amount)).noting
          (.reductionFailed (.outOfGas (.list items))),
        [⟨state.world, .charge amount false⟩]⟩ := by
  rw [charge, doing, on_charge, if_neg (by simp [refused]), refused]

/-- A part without deeds leads on to the next one. -/
theorem silent_bind {reduction : Reduction α} {state middle : State} {value : α}
    (first : reduction.on state = (.ok value, middle)) (next : α → Watched β) :
    (silent reduction >>= next) state = next value middle := by
  have outcome : silent reduction state = ⟨.ok value, middle, []⟩ := by rw [silent, first]
  rw [bind_ok outcome, List.nil_append]

/-- A part without deeds that fails ends everything. -/
theorem silent_bind_error {reduction : Reduction α} {state middle : State} {error : Error}
    (first : reduction.on state = (.error error, middle)) (next : α → Watched β) :
    (silent reduction >>= next) state = ⟨.error error, middle, []⟩ := by
  have outcome : silent reduction state = ⟨.error error, middle, []⟩ := by rw [silent, first]
  rw [bind_error outcome]

@[simp] theorem unwatched_bind (watched : Watched α) (next : α → Watched β) :
    (watched >>= next).unwatched = watched.unwatched >>= fun value => (next value).unwatched := by
  apply ext_on
  intro state
  rw [on_unwatched, on_bind, on_unwatched]
  rcases outcome : watched state with ⟨error | value, middle, log⟩
  · rw [bind_error outcome]
  · rw [bind_ok outcome]
    rfl

@[simp] theorem unwatched_chargeAll (amounts : List Float) (items : List Node) :
    (chargeAll amounts items).unwatched = Reduction.chargeAll amounts items := by
  induction amounts with
  | nil => rfl
  | cons amount rest inductionHypothesis =>
      rw [chargeAll, Reduction.chargeAll, unwatched_bind, unwatched_charge, inductionHypothesis]

end Watched

namespace Engine

open Reduction Watched

variable (engine : Engine) (inputs : Inputs)

/-- A call that is paid for is made by the function of its name, or by a caster. -/
def watchCall (scope : Scope) (id : Nat) (requested : String) (items : List Node) : Watched Node :=
  let arguments := engine.arguments scope items
  match engine.resolve? scope requested with
  | some (name, function) => do
    silent (engine.checkArity scope name arguments.length)
    silent (engine.checkPurity scope name)
    let call : Call :=
      { id := id, seed := engine.seed, name := requested, list := items, argv := inputs.argv,
        event := inputs.event, scope := scope }
    doing (.call call arguments) (perform (function.call call arguments))
  | none =>
    match engine.library.caster? requested scope with
    | some caster => doing (.cast requested scope arguments) (orFail (caster arguments))
    | none => silent (engine.invokeOther scope requested items arguments)

/-- The walk logs charges, calls and uses of casters. -/
def watching : Manner Watched Node where
  enter scope items := silent (engine.enter scope items)
  pay := chargeAll
  single scope id items
    | .call requested => engine.watchCall inputs scope id requested items
    | shape => silent (engine.reduceList inputs scope id items shape)
  join _ _ parts := do
    let results ← inTurn attempt parts
    match gather results with
    | .ok reduced => pure (sequenceResult reduced)
    | .error error => silent (throw error)
  value node := pure node

def watchBranch (scope : Scope) (node : Node) : Watched Node :=
  engine.walk (engine.watching inputs) scope node

def watchItems (scope : Scope) (items : List Node) : Watched (List (Except Error Node)) :=
  inTurn attempt (items.map (engine.watchBranch inputs scope))

def watchSequence (scope : Scope) (items : List Node) : Watched Node := do
  let results ← engine.watchItems inputs scope items
  match gather results with
  | .ok reduced => pure (sequenceResult reduced)
  | .error error => silent (throw error)

/-- The reduction of a list by its shape, once its charges are paid. -/
def watchList (scope : Scope) (id : Nat) (items : List Node) : Node.Shape → Watched Node
  | .sequence => engine.watchSequence inputs (engine.library.innerScope scope items) items
  | .call requested => engine.watchCall inputs scope id requested items
  | shape => silent (engine.reduceList inputs scope id items shape)

def watchPass (scope : Scope) (appendArgv : Bool) (program : Node) : Watched Node :=
  engine.passBy silent (engine.watchBranch inputs scope) pure inputs appendArgv program

def watchRound (first : Bool) (program : Node) : Watched Settled := do
  let reduced ← engine.watchPass inputs .global first program
  silent (engine.settle program reduced)

/-- Rounds go on until one is done. -/
def watchRounds : Nat → Bool → Node → Watched (Option Node)
  | 0, _, _ => pure none
  | bound + 1, first, program => do
    match ← engine.watchRound inputs first program with
    | .done value => pure (some value)
    | .again next => watchRounds bound false next

/-- A run goes its rounds from the opened state. -/
def watchRun (bound : Nat) (program : Node) : Watched (Option Node) :=
  fun state => engine.watchRounds inputs bound true program (engine.opened program state)

/-- A call does what it does unwatched. -/
theorem unwatched_watchCall (scope : Scope) (id : Nat) (requested : String) (items : List Node) :
    (engine.watchCall inputs scope id requested items).unwatched =
      engine.reduceList inputs scope id items (.call requested) := by
  simp only [watchCall, reduceList]
  cases engine.resolve? scope requested with
  | none =>
      simp only [invokeOther]
      cases engine.library.caster? requested scope <;> rfl
  | some found => simp only [unwatched_bind, unwatched_silent, unwatched_doing, callFunction]

theorem walkList_watching (scope : Scope) (id : Nat) (items : List Node) (shape : Node.Shape) :
    engine.walkList (engine.watching inputs) scope id items shape =
      engine.watchList inputs scope id items shape := by
  cases shape with
  | sequence =>
      rw [walkList, walkItems_eq_map]
      rfl
  | _ => rfl

/-- A node that is no list stays as it is. -/
theorem watchBranch_other (scope : Scope) (node : Node) (other : node.isList = false)
    (state : State) : engine.watchBranch inputs scope node state = ⟨.ok node, state, []⟩ := by
  rw [watchBranch, engine.walk_other _ scope node other]
  rfl

/-- A list is counted, pays its bill, and is then reduced by its shape. -/
theorem watchBranch_list (scope : Scope) (items : List Node) (state : State) :
    engine.watchBranch inputs scope (.list items) state =
      (Watched.chargeAll (engine.bill scope items.length (Node.shape items)) items >>= fun _ =>
        engine.watchList inputs scope (state.counter + 1) items (Node.shape items))
          (engine.entered scope items state) := by
  rw [watchBranch, walk_list]
  simp only [walkList_watching]
  exact silent_bind (engine.on_entering scope items state) _

@[simp] theorem watchItems_nil (scope : Scope) (state : State) :
    engine.watchItems inputs scope [] state = ⟨.ok [], state, []⟩ := rfl

theorem watchItems_cons (scope : Scope) (item : Node) (rest : List Node) (state : State) :
    engine.watchItems inputs scope (item :: rest) state =
      let first := engine.watchBranch inputs scope item state
      let others := engine.watchItems inputs scope rest first.state
      ⟨others.result.map (first.result :: ·), others.state, first.log ++ others.log⟩ := by
  have attempted : attempt (engine.watchBranch inputs scope item) state =
      ⟨.ok (engine.watchBranch inputs scope item state).result, _, _⟩ := rfl
  change (attempt (engine.watchBranch inputs scope item) >>= fun result =>
    engine.watchItems inputs scope rest >>= fun results => pure (result :: results)) state = _
  rw [bind_ok attempted]
  dsimp only
  rcases others : engine.watchItems inputs scope rest
    (engine.watchBranch inputs scope item state).state with ⟨error | results, final, log⟩
  · rw [bind_error others]
    rfl
  · rw [bind_ok others, pure_apply, List.append_nil]
    rfl

/-- Items have the results that they have unwatched. -/
theorem watchItems_unwatched (scope : Scope) (items : List Node)
    (each : ∀ item ∈ items,
      (engine.watchBranch inputs scope item).unwatched = engine.branch inputs scope item)
    (state : State) :
    (engine.watchItems inputs scope items).unwatched.on state =
      (.ok (engine.results inputs scope items state).1,
        (engine.results inputs scope items state).2) := by
  induction items generalizing state with
  | nil => rw [on_unwatched, watchItems_nil, results_nil]
  | cons item rest inductionHypothesis =>
      have others := inductionHypothesis (fun other member => each other (.tail item member))
        (engine.watchBranch inputs scope item state).state
      rw [on_unwatched, Prod.mk.injEq] at others
      simp only [on_unwatched, watchItems_cons, results_cons, ← each item (.head rest), others]
      rfl

/-- A sequence does what it does unwatched when its items do. -/
theorem unwatched_watchSequence (scope : Scope) (items : List Node)
    (each : ∀ item ∈ items,
      (engine.watchBranch inputs scope item).unwatched = engine.branch inputs scope item) :
    (engine.watchSequence inputs scope items).unwatched =
      engine.reduceItems inputs scope items := by
  apply ext_on
  intro state
  rw [on_reduceItems, watchSequence, unwatched_bind, on_bind,
    engine.watchItems_unwatched inputs scope items each]
  dsimp only
  cases gather (engine.results inputs scope items state).1 <;> rfl

/-- A list does what it does unwatched when its items do. -/
theorem unwatched_watchList (scope : Scope) (id : Nat) (items : List Node) (shape : Node.Shape)
    (each : ∀ item ∈ items, ∀ inner,
      (engine.watchBranch inputs inner item).unwatched = engine.branch inputs inner item) :
    (engine.watchList inputs scope id items shape).unwatched =
      engine.reduceList inputs scope id items shape := by
  cases shape with
  | sequence =>
      exact engine.unwatched_watchSequence inputs _ items fun item member => each item member _
  | call requested => exact engine.unwatched_watchCall inputs scope id requested items
  | _ => rfl

/-- A branch does what it does unwatched. -/
@[simp] theorem unwatched_watchBranch (node : Node) :
    ∀ scope,
      (engine.watchBranch inputs scope node).unwatched = engine.branch inputs scope node := by
  induction node using Node.listInduction with
  | other node other =>
      intro scope
      apply ext_on
      intro state
      rw [on_unwatched, engine.watchBranch_other inputs scope node other,
        engine.branch_other inputs scope node other]
  | list items inductionHypothesis =>
      intro scope
      apply ext_on
      intro state
      rw [on_unwatched, watchBranch_list, ← on_unwatched, unwatched_bind, unwatched_chargeAll,
        engine.unwatched_watchList inputs scope _ items _ inductionHypothesis, branch_list]

/-- A pass does what it does unwatched. -/
@[simp] theorem unwatched_watchPass (scope : Scope) (appendArgv : Bool) (program : Node) :
    (engine.watchPass inputs scope appendArgv program).unwatched =
      engine.pass inputs scope appendArgv program := by
  unfold watchPass passBy pass
  by_cases null : program.isNull = true
  · rw [if_pos null, if_pos null, unwatched_silent]
  · rw [if_neg null, if_neg null]
    cases program.denest with
    | list items =>
        simp only [unwatched_bind, unwatched_silent, unwatched_watchBranch]
        rfl
    | _ => rfl

/-- A pass over a list reduces what the leading forms are expanded to. -/
theorem watchPass_list {scope : Scope} {appendArgv : Bool} {program : Node}
    {items expanded : List Node} {state middle : State} (denested : program.denest = .list items)
    (preprocessed : (engine.preprocess inputs items).on state = (.ok expanded, middle)) :
    engine.watchPass inputs scope appendArgv program state =
      engine.watchBranch inputs scope (joined inputs appendArgv expanded) middle := by
  unfold watchPass passBy
  rw [Node.isNull_of_denest denested, if_neg Bool.false_ne_true, denested]
  exact silent_bind preprocessed _

@[simp] theorem unwatched_watchRound (first : Bool) (program : Node) :
    (engine.watchRound inputs first program).unwatched = engine.round inputs first program := by
  rw [watchRound, unwatched_bind, unwatched_watchPass]
  rfl

@[simp] theorem unwatched_watchRounds (bound : Nat) (first : Bool) (program : Node) :
    (engine.watchRounds inputs bound first program).unwatched =
      engine.rounds inputs bound first program := by
  induction bound generalizing first program with
  | zero => rfl
  | succ bound inductionHypothesis =>
      rw [watchRounds, rounds_succ, unwatched_bind, unwatched_watchRound]
      congr 1
      funext settled
      cases settled with
      | done value => rfl
      | again next => exact inductionHypothesis false next

/-- A run does what it does unwatched. -/
theorem on_unwatched_watchRun (bound : Nat) (program : Node) (state : State) :
    (engine.watchRun inputs bound program).unwatched.on state =
      (engine.run inputs bound program).on state := by
  rw [on_run, ← unwatched_watchRounds]
  rfl

end Engine

end Reduct
