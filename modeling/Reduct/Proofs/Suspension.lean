import Reduct.Proofs.Watch

/-! This file reduces a program in turns. A turn starts a list of the program or resumes a call that
is suspended, and turns may come in any order. Where no call is suspended, some turns do what the
engine does. -/

namespace Reduct

/-- A way of suspending calls. A call goes on in portions, and the first of them is the action of
its function. After portions that began in some worlds, the latest first, the call has ended with
what the last portion yields, or it is suspended and another portion is left. -/
abbrev Suspension := Call → List Node → List World → Option (Action Node)

/-- Every call ends with its first portion. -/
def Suspension.never : Suspension := fun _ _ _ => none

/-- The clock stands still during the action. -/
def Action.timeless (action : Action Node) : Action Node := fun world =>
  ((action.run world).1, { (action.run world).2 with now := world.now })

/-- A call that is suspended, the worlds in which its portions began, and what is left of it. -/
structure Pending where
  call : Call
  arguments : List Node
  begun : List World
  portion : Action Node

/-- How far the reduction of a node has come. -/
inductive Progress where
  | waiting (scope : Scope) (node : Node)
  | suspended (pending : Pending)
  | ended (result : Except Error Node)
  | joined (parts : List Progress)

namespace Progress

mutual

/-- The result of a reduction that has ended: a join has ended when all its parts have. -/
def result? : Progress → Option (Except Error Node)
  | .ended result => some result
  | .joined parts => (results? parts).map fun results =>
      (Engine.gather results).map Engine.sequenceResult
  | _ => none

def results? : List Progress → Option (List (Except Error Node))
  | [] => some []
  | part :: later => do pure ((← result? part) :: (← results? later))

end

@[simp] theorem result?_ended (result : Except Error Node) :
    (ended result).result? = some result := by
  rw [result?]

/-- A reduction that fails has ended. -/
def ofResult : Except Error Progress → Progress
  | .ok progress => progress
  | .error error => .ended (.error error)

end Progress

/-- How far a reduction has come, the state then, and the deeds on the way. -/
structure Stage where
  progress : Progress
  state : State
  log : List Deed

def Stage.ofOutcome (outcome : Outcome Progress) : Stage :=
  ⟨.ofResult outcome.result, outcome.state, outcome.log⟩

/-- A turn goes on with the part of a reduction that stands at some positions, or lets time pass. -/
inductive Turn where
  | go (path : List Nat)
  | wait (milliseconds : Nat)

/-- The state when some time has passed. -/
def State.later (state : State) (milliseconds : Nat) : State :=
  { state with world := { state.world with now := state.world.now + milliseconds } }

namespace Pending

open Reduction Watched

/-- A portion is done. Then the call has ended, or it is suspended again and goes on later: time
passes between the portions of a call and not in them. -/
def proceed (pending : Pending) (suspension : Suspension) (act : Act) : Watched Progress :=
  fun state =>
    match suspension pending.call pending.arguments (state.world :: pending.begun) with
    | none => doing act (do pure (.ended (.ok (← perform pending.portion)))) state
    | some portion =>
      ⟨.ok (.suspended
          ⟨pending.call, pending.arguments, state.world :: pending.begun, portion.timeless⟩),
        { state with world := (pending.portion.run state.world).2 }, [⟨state.world, act⟩]⟩

def resume (pending : Pending) (suspension : Suspension) : Watched Progress :=
  pending.proceed suspension (.resume pending.call pending.arguments pending.portion)

end Pending

namespace Engine

open Reduction Watched

variable (engine : Engine) (inputs : Inputs) (suspension : Suspension)

/-- A call that is paid for makes its first portion; a caster and a constant are no calls. -/
def startCall (scope : Scope) (id : Nat) (requested : String) (items : List Node) :
    Watched Progress :=
  match engine.resolve? scope requested with
  | some (name, function) => do
    let arguments := engine.arguments scope items
    silent (engine.checkArity scope name arguments.length)
    silent (engine.checkPurity scope name)
    let call : Call :=
      { id := id, seed := engine.seed, name := requested, list := items, argv := inputs.argv,
        event := inputs.event, scope := scope }
    Pending.proceed ⟨call, arguments, [], function.call call arguments⟩ suspension
      (.call call arguments)
  | none => do pure (.ended (.ok (← engine.watchCall inputs scope id requested items)))

/-- The walk stops at the items of a sequence, which wait for turns of their own. -/
def suspending : Manner Watched Progress where
  enter scope items := silent (engine.enter scope items)
  pay := chargeAll
  single scope id items
    | .call requested => engine.startCall inputs suspension scope id requested items
    | shape => do pure (.ended (.ok (← silent (engine.reduceList inputs scope id items shape))))
  join scope items _ := pure (.joined (items.map (.waiting scope)))
  value node := pure (.ended (.ok node))

def start (scope : Scope) (node : Node) : Watched Progress :=
  engine.walk (engine.suspending inputs suspension) scope node

/-- What waits is started and what is suspended is resumed. -/
def advance : List Nat → Progress → State → Stage
  | _, .waiting scope node, state => .ofOutcome (engine.start inputs suspension scope node state)
  | _, .suspended pending, state => .ofOutcome (pending.resume suspension state)
  | position :: path, .joined parts, state =>
    match parts[position]? with
    | some part =>
      let next := advance path part state
      ⟨.joined (parts.set position next.progress), next.state, next.log⟩
    | none => ⟨.joined parts, state, []⟩
  | _, progress, state => ⟨progress, state, []⟩

def takeTurns : List Turn → Progress → State → Stage
  | [], progress, state => ⟨progress, state, []⟩
  | .wait milliseconds :: later, progress, state =>
    takeTurns later progress (state.later milliseconds)
  | .go path :: later, progress, state =>
    let next := engine.advance inputs suspension path progress state
    let final := takeTurns later next.progress next.state
    ⟨final.progress, final.state, next.log ++ final.log⟩

/-- A node is started and takes its turns; no answer means that they left a call suspended. -/
def branchInTurns (turns : List Turn) (scope : Scope) (node : Node) : Watched (Option Node) :=
  fun state =>
    let final := engine.takeTurns inputs suspension (.go [] :: turns) (.waiting scope node) state
    ⟨match final.progress.result? with
      | some result => result.map some
      | none => .ok none, final.state, final.log⟩

def passInTurns (turns : List Turn) (scope : Scope) (appendArgv : Bool) (program : Node) :
    Watched (Option Node) :=
  engine.passBy silent (engine.branchInTurns inputs suspension turns scope)
    (fun value => pure (some value)) inputs appendArgv program

/-- Rounds go on until one is done or left with a suspended call. Each has its own turns, which are
given by the number of rounds that may follow it. -/
def roundsInTurns (turns : Nat → List Turn) : Nat → Bool → Node → Watched (Option Node)
  | 0, _, _ => pure none
  | bound + 1, first, program => do
    match ← engine.passInTurns inputs suspension (turns bound) .global first program with
    | none => pure none
    | some reduced =>
      match ← silent (engine.settle program reduced) with
      | .done value => pure (some value)
      | .again next => roundsInTurns turns bound false next

def runInTurns (turns : Nat → List Turn) (bound : Nat) (program : Node) : Watched (Option Node) :=
  fun state =>
    engine.roundsInTurns inputs suspension turns bound true program (engine.opened program state)

theorem start_other (scope : Scope) (node : Node) (other : node.isList = false) (state : State) :
    engine.start inputs suspension scope node state = ⟨.ok (.ended (.ok node)), state, []⟩ := by
  rw [start, engine.walk_other _ scope node other]
  rfl

/-- A list is counted, pays its bill, and goes on by its shape. -/
theorem start_list (scope : Scope) (items : List Node) (state : State) :
    engine.start inputs suspension scope (.list items) state =
      (Watched.chargeAll (engine.bill scope items.length (Node.shape items)) items >>= fun _ =>
        engine.walkList (engine.suspending inputs suspension) scope (state.counter + 1) items
          (Node.shape items)) (engine.entered scope items state) := by
  rw [start, walk_list]
  exact silent_bind (engine.on_entering scope items state) _

theorem takeTurns_nil (progress : Progress) (state : State) :
    engine.takeTurns inputs suspension [] progress state = ⟨progress, state, []⟩ := rfl

theorem takeTurns_append (first second : List Turn) (progress : Progress) (state : State) :
    engine.takeTurns inputs suspension (first ++ second) progress state =
      let middle := engine.takeTurns inputs suspension first progress state
      let final := engine.takeTurns inputs suspension second middle.progress middle.state
      ⟨final.progress, final.state, middle.log ++ final.log⟩ := by
  induction first generalizing progress state with
  | nil => rfl
  | cons turn later inductionHypothesis =>
      cases turn with
      | wait milliseconds => exact inductionHypothesis progress (state.later milliseconds)
      | go path =>
          rw [List.cons_append, takeTurns, takeTurns, inductionHypothesis]
          simp only [List.append_assoc]

end Engine

/-- The turn of a part of a join. -/
def Turn.under (position : Nat) : Turn → Turn
  | .go path => .go (position :: path)
  | .wait milliseconds => .wait milliseconds

/-- The reduction has ended as it does when it is watched. -/
def Stage.Matches (stage : Stage) (outcome : Outcome Node) : Prop :=
  ∃ result, stage.progress.result? = some result ∧ outcome = ⟨result, stage.state, stage.log⟩

namespace Engine

open Reduction Watched

variable (engine : Engine) (inputs : Inputs)

theorem advance_joined (suspension : Suspension) {parts : List Progress} {position : Nat}
    {part : Progress} (found : parts[position]? = some part) (path : List Nat) (state : State) :
    engine.advance inputs suspension (position :: path) (.joined parts) state =
      let next := engine.advance inputs suspension path part state
      ⟨.joined (parts.set position next.progress), next.state, next.log⟩ := by
  rw [advance, found]

/-- The turns of a part leave the other parts of the join alone. -/
theorem takeTurns_under (suspension : Suspension) (turns : List Turn) {parts : List Progress}
    {position : Nat} {part : Progress} (found : parts[position]? = some part) (state : State) :
    engine.takeTurns inputs suspension (turns.map (.under position)) (.joined parts) state =
      let final := engine.takeTurns inputs suspension turns part state
      ⟨.joined (parts.set position final.progress), final.state, final.log⟩ := by
  induction turns generalizing parts part state with
  | nil =>
      obtain ⟨bound, rfl⟩ := List.getElem?_eq_some_iff.mp found
      simp [takeTurns]
  | cons turn later inductionHypothesis =>
      cases turn with
      | wait milliseconds => exact inductionHypothesis found (state.later milliseconds)
      | go path =>
          have bound := (List.getElem?_eq_some_iff.mp found).1
          rw [List.map_cons, Turn.under, takeTurns, takeTurns,
            engine.advance_joined inputs suspension found]
          simp only [inductionHypothesis (List.getElem?_set_self bound), List.set_set]

/-- A node that is started has ended when the turns after its start end what is left of it. -/
theorem matches_of_start (suspension : Suspension) {scope : Scope} {node : Node}
    {state final : State} {outcome : Outcome Progress} {turns : List Turn} {progress : Progress}
    {log : List Deed} {result : Except Error Node}
    (started : engine.start inputs suspension scope node state = outcome)
    (taken : engine.takeTurns inputs suspension turns (.ofResult outcome.result) outcome.state =
      ⟨progress, final, log⟩) (ended : progress.result? = some result) :
    (engine.takeTurns inputs suspension (.go [] :: turns) (.waiting scope node) state).Matches
      ⟨result, final, outcome.log ++ log⟩ := by
  have next : engine.advance inputs suspension [] (.waiting scope node) state =
      ⟨.ofResult outcome.result, outcome.state, outcome.log⟩ := by
    rw [advance, started]
    rfl
  rw [takeTurns, next]
  dsimp only
  rw [taken]
  exact ⟨result, ended, rfl⟩

/-- A node that ends with its start takes one turn. -/
theorem matches_of_ended (suspension : Suspension) {scope : Scope} {node : Node}
    {state final : State} {found : Except Error Progress} {log : List Deed}
    {result : Except Error Node}
    (started : engine.start inputs suspension scope node state = ⟨found, final, log⟩)
    (ended : Progress.ofResult found = .ended result) :
    (engine.takeTurns inputs suspension [.go []] (.waiting scope node) state).Matches
      ⟨result, final, log⟩ := by
  have matched := engine.matches_of_start inputs suspension started
    (engine.takeTurns_nil inputs suspension _ _) (ended ▸ Progress.result?_ended result)
  rwa [List.append_nil] at matched

/-- Where no call is suspended, a list that is no sequence ends as it does when it is watched. -/
theorem walkList_never (scope : Scope) (id : Nat) (items : List Node) {shape : Node.Shape}
    (single : shape ≠ .sequence) :
    engine.walkList (engine.suspending inputs .never) scope id items shape =
      engine.watchList inputs scope id items shape >>= fun node =>
        pure (.ended (.ok node)) := by
  have mapped (act : Act) (reduction : Reduction Node) :
      doing act (reduction >>= fun node => pure (Progress.ended (.ok node))) =
        doing act reduction >>= fun node => pure (Progress.ended (.ok node)) := by
    funext state
    rcases outcome : reduction.on state with ⟨error | node, after⟩
    · have done : doing act reduction state = ⟨.error error, after, [⟨state.world, act⟩]⟩ := by
        rw [doing, outcome]
      rw [bind_error done, doing, on_bind, outcome]
    · have done : doing act reduction state = ⟨.ok node, after, [⟨state.world, act⟩]⟩ := by
        rw [doing, outcome]
      rw [bind_ok done, doing, on_bind, outcome]
      rfl
  cases shape with
  | sequence => exact absurd rfl single
  | call requested =>
      change engine.startCall inputs .never scope id requested items =
        engine.watchCall inputs scope id requested items >>= _
      unfold startCall
      cases found : engine.resolve? scope requested with
      | none => rfl
      | some resolved =>
          simp only [watchCall, found, bind_assoc, ← mapped]
          rfl
  | quote => rfl
  | empty => rfl

/-- Where no call is suspended, the items of a sequence can take their turns from left to right. -/
theorem exists_turns_items (scope : Scope) (items : List Node)
    (each : ∀ item ∈ items, ∀ state, ∃ turns,
      (engine.takeTurns inputs .never turns (.waiting scope item) state).Matches
        (engine.watchBranch inputs scope item state)) (before : List Progress) (state : State) :
    ∃ (turns : List Turn) (after : List Progress) (results : List (Except Error Node))
      (final : State) (log : List Deed),
      engine.takeTurns inputs .never turns (.joined (before ++ items.map (.waiting scope))) state =
          ⟨.joined (before ++ after), final, log⟩ ∧
        Progress.results? after = some results ∧
        engine.watchItems inputs scope items state = ⟨.ok results, final, log⟩ := by
  induction items generalizing before state with
  | nil => exact ⟨[], [], [], state, [], rfl, by rw [Progress.results?], rfl⟩
  | cons item rest inductionHypothesis =>
      obtain ⟨turns, result, part, first⟩ := each item (.head rest) state
      rcases stage : engine.takeTurns inputs .never turns (.waiting scope item) state with
        ⟨progress, middle, log⟩
      rw [stage] at part first
      obtain ⟨others, after, results, final, laterLog, taken, ended, watched⟩ :=
        inductionHypothesis (fun other member => each other (.tail item member))
          (before ++ [progress]) middle
      have found : (before ++ (item :: rest).map (Progress.waiting scope))[before.length]? =
          some (.waiting scope item) := by
        rw [List.map_cons, List.getElem?_append_right le_rfl, Nat.sub_self,
          List.getElem?_cons_zero]
      have replaced : (before ++ (item :: rest).map (Progress.waiting scope)).set before.length
          progress = (before ++ [progress]) ++ rest.map (.waiting scope) := by
        simp
      refine ⟨turns.map (.under before.length) ++ others, progress :: after, result :: results,
        final, log ++ laterLog, ?_, ?_, ?_⟩
      · rw [takeTurns_append, engine.takeTurns_under inputs .never turns found, stage]
        simp only [replaced, taken]
        rw [List.append_assoc]
        rfl
      · simp [Progress.results?, part, ended]
      · rw [watchItems_cons, first]
        simp only [watched]
        rfl

/-- Where no call is suspended, a node can take turns that do what the engine does. -/
theorem exists_turns_branch (node : Node) : ∀ (scope : Scope) (state : State), ∃ turns,
    (engine.takeTurns inputs .never (.go [] :: turns) (.waiting scope node) state).Matches
      (engine.watchBranch inputs scope node state) := by
  induction node using Node.listInduction with
  | other node other =>
      intro scope state
      rw [engine.watchBranch_other inputs scope node other]
      exact ⟨[], engine.matches_of_ended inputs .never
        (engine.start_other inputs .never scope node other state) rfl⟩
  | list items inductionHypothesis =>
      intro scope state
      have started := engine.start_list inputs .never scope items state
      rw [watchBranch_list]
      rcases paid : Watched.chargeAll (engine.bill scope items.length (Node.shape items)) items
        (engine.entered scope items state) with ⟨error | _, middle, log⟩
      · rw [bind_error paid] at started ⊢
        exact ⟨[], engine.matches_of_ended inputs .never started rfl⟩
      · rw [bind_ok paid] at started ⊢
        by_cases sequence : Node.shape items = .sequence
        · rw [sequence] at started ⊢
          obtain ⟨turns, after, results, final, later, taken, ended, watched⟩ :=
            engine.exists_turns_items inputs (engine.library.innerScope scope items) items
              (fun item member state => by
                obtain ⟨turns, same⟩ := inductionHypothesis item member
                  (engine.library.innerScope scope items) state
                exact ⟨.go [] :: turns, same⟩) [] middle
          have gathered : engine.watchList inputs scope (state.counter + 1) items .sequence middle =
              ⟨(gather results).map sequenceResult, final, later⟩ := by
            rw [watchList, watchSequence, bind_ok watched]
            cases gather results <;> simp [pure_apply, silent, Except.map]
          have result : (Progress.joined after).result? =
              some ((gather results).map sequenceResult) := by
            rw [Progress.result?, ended, Option.map_some]
          have joined := engine.matches_of_start inputs .never started taken result
          rw [gathered]
          rw [List.append_assoc] at joined
          exact ⟨turns, joined⟩
        · rw [engine.walkList_never inputs scope _ items sequence] at started
          refine ⟨[], ?_⟩
          rcases outcome : engine.watchList inputs scope (state.counter + 1) items
            (Node.shape items) middle with ⟨error | node, final, later⟩
          · rw [bind_error outcome] at started
            exact engine.matches_of_ended inputs .never started rfl
          · rw [bind_ok outcome, pure_apply, List.append_nil] at started
            exact engine.matches_of_ended inputs .never started rfl

theorem branchInTurns_of_matches {suspension : Suspension} {turns : List Turn} {scope : Scope}
    {node : Node} {state : State} {outcome : Outcome Node}
    (matched : (engine.takeTurns inputs suspension (.go [] :: turns) (.waiting scope node)
      state).Matches outcome) :
    engine.branchInTurns inputs suspension turns scope node state =
      ⟨outcome.result.map some, outcome.state, outcome.log⟩ := by
  obtain ⟨result, ended, rfl⟩ := matched
  rw [branchInTurns]
  simp only [ended]

/-- Where no call is suspended, some turns do what a pass of the engine does. -/
theorem exists_turns_pass (scope : Scope) (appendArgv : Bool) (program : Node) (state : State) :
    ∃ turns, engine.passInTurns inputs .never turns scope appendArgv program state =
      (engine.watchPass inputs scope appendArgv program >>= fun node =>
        pure (some node)) state := by
  have mapped {state : State} {outcome : Outcome Node} {watched : Watched Node}
      (equal : watched state = outcome) : (watched >>= fun node => pure (some node)) state =
        ⟨outcome.result.map some, outcome.state, outcome.log⟩ := by
    rcases outcome with ⟨error | node, final, log⟩
    · exact bind_error equal _
    · rw [bind_ok equal, pure_apply, List.append_nil]
      rfl
  cases program with
  | list items =>
      obtain ⟨inner, denested⟩ := Node.exists_denest_list items
      simp only [passInTurns, watchPass, engine.passBy_list _ _ _ inputs appendArgv denested]
      rcases expanding : (engine.preprocess inputs inner).on state with ⟨error | expanded, middle⟩
      · rw [bind_assoc, silent_bind_error expanding]
        exact ⟨[], silent_bind_error expanding _⟩
      · obtain ⟨turns, matched⟩ := engine.exists_turns_branch inputs
          (joined inputs appendArgv expanded) scope middle
        refine ⟨turns, ?_⟩
        rw [bind_assoc, silent_bind expanding, silent_bind expanding,
          engine.branchInTurns_of_matches inputs matched]
        exact (mapped rfl).symm
  | _ => exact ⟨[], rfl⟩

/-- Rounds look at their own turns and those of the rounds after them. -/
theorem roundsInTurns_congr (suspension : Suspension) {first second : Nat → List Turn} {bound : Nat}
    (same : ∀ left < bound, first left = second left) (opening : Bool) (program : Node) :
    engine.roundsInTurns inputs suspension first bound opening program =
      engine.roundsInTurns inputs suspension second bound opening program := by
  induction bound generalizing opening program with
  | zero => rfl
  | succ bound inductionHypothesis =>
      have others := inductionHypothesis fun left less => same left (Nat.lt_succ_of_lt less)
      rw [roundsInTurns, roundsInTurns, same bound (Nat.lt_succ_self bound)]
      simp only [others]

/-- Where no call is suspended, some turns do what the rounds of the engine do. -/
theorem exists_turns_rounds (bound : Nat) (first : Bool) (program : Node) (state : State) :
    ∃ turns, engine.roundsInTurns inputs .never turns bound first program state =
      engine.watchRounds inputs bound first program state := by
  induction bound generalizing first program state with
  | zero => exact ⟨fun _ => [], rfl⟩
  | succ bound inductionHypothesis =>
      obtain ⟨own, passed⟩ := engine.exists_turns_pass inputs .global first program state
      rcases outcome : engine.watchPass inputs .global first program state with
        ⟨error | reduced, middle, log⟩
      · refine ⟨fun _ => own, ?_⟩
        rw [bind_error outcome] at passed
        rw [roundsInTurns, watchRounds, watchRound, bind_assoc, bind_error passed,
          bind_error outcome]
      · rw [bind_ok outcome, pure_apply, List.append_nil] at passed
        obtain ⟨others, same⟩ : ∃ others, ∀ next after,
            (engine.settle program reduced).on middle = (.ok (.again next), after) →
              engine.roundsInTurns inputs .never others bound false next after =
                engine.watchRounds inputs bound false next after := by
          rcases (engine.settle program reduced).on middle with ⟨error | value | next, after⟩
          · exact ⟨fun _ => [], by simp⟩
          · exact ⟨fun _ => [], by simp⟩
          · obtain ⟨others, same⟩ := inductionHypothesis false next after
            refine ⟨others, ?_⟩
            rintro _ _ ⟨⟩
            exact same
        let turns (left : Nat) : List Turn := if left = bound then own else others left
        have chosen : turns bound = own := if_pos rfl
        have kept (next : Node) : engine.roundsInTurns inputs .never turns bound false next =
            engine.roundsInTurns inputs .never others bound false next :=
          engine.roundsInTurns_congr inputs .never (fun left less => if_neg (Nat.ne_of_lt less))
            false next
        refine ⟨turns, ?_⟩
        rw [roundsInTurns, watchRounds, watchRound, bind_assoc, chosen, bind_ok passed,
          bind_ok outcome]
        dsimp only
        rcases settled : (engine.settle program reduced).on middle with
          ⟨error | value | next, after⟩
        · rw [silent_bind_error settled, silent_bind_error settled]
        · rw [silent_bind settled, silent_bind settled]
        · rw [silent_bind settled, silent_bind settled]
          dsimp only
          rw [kept, same next after settled]

theorem exists_turns_run (bound : Nat) (program : Node) (state : State) :
    ∃ turns, engine.runInTurns inputs .never turns bound program state =
      engine.watchRun inputs bound program state :=
  engine.exists_turns_rounds inputs bound true program (engine.opened program state)

end Engine

end Reduct
