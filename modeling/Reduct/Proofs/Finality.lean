import Reduct.Proofs.Exhaustion

namespace Reduct

/-- What can be done with a session: a run, a step, or nothing for a while. -/
inductive Operation where
  | run (inputs : Inputs) (bound : Nat) (program : Node) (turns : Nat → List Turn)
  | step (inputs : Inputs) (scope : Scope) (program : Node) (turns : List Turn)
  | wait (milliseconds : Nat)

namespace Operation

def watched (engine : Engine) (suspension : Suspension) : Operation → Watched (Option Node)
  | .run inputs bound program turns => engine.runInTurns inputs suspension turns bound program
  | .step inputs scope program turns =>
    engine.passInTurns inputs suspension turns scope true program
  | .wait milliseconds => fun state => ⟨.ok none, state.later milliseconds, []⟩

end Operation

namespace Session

variable (session : Session) (suspension : Suspension)

def perform (operation : Operation) : Except Error (Option Node) × Session :=
  let outcome := operation.watched session.engine suspension session.state
  (outcome.result, { session with state := outcome.state })

def log (operation : Operation) : List Deed :=
  (operation.watched session.engine suspension session.state).log

/-- Where no call is suspended, a run of the session is one in turns. -/
theorem exists_turns_perform_run (inputs : Inputs) (bound : Nat) (program : Node) :
    ∃ turns, session.perform .never (.run inputs bound program turns) =
      session.run inputs bound program := by
  obtain ⟨turns, same⟩ := session.engine.exists_turns_run inputs bound program session.state
  have watched := session.engine.on_unwatched_watchRun inputs bound program session.state
  refine ⟨turns, ?_⟩
  rw [perform, Operation.watched, same]
  change _ = (let outcome := (session.engine.run inputs bound program).on session.state
    (outcome.1, { session with state := outcome.2 }))
  rw [← watched]
  rfl

/-- Where no call is suspended, a step of the session is one in turns. -/
theorem exists_turns_perform_step (inputs : Inputs) (scope : Scope) (program : Node) :
    ∃ turns, session.perform .never (.step inputs scope program turns) =
      let (result, next) := session.step inputs scope program
      (result.map some, next) := by
  obtain ⟨turns, same⟩ :=
    session.engine.exists_turns_pass inputs scope true program session.state
  refine ⟨turns, ?_⟩
  rw [perform, Operation.watched, same]
  change _ = (let outcome := (session.engine.pass inputs scope true program).on session.state
    (outcome.1.map some, { session with state := outcome.2 }))
  rw [← Engine.unwatched_watchPass, Watched.on_unwatched]
  rcases outcome : session.engine.watchPass inputs scope true program session.state with
    ⟨error | value, final, log⟩
  · rw [Watched.bind_error outcome]
    rfl
  · rw [Watched.bind_ok outcome]
    rfl

section

variable {session} (debits : session.engine.NeverCredits)
  (unclaimed : ∀ name scope, session.engine.library.preprocessor? name scope = none)

include debits unclaimed

end

end Session

end Reduct
