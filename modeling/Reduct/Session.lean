import Reduct.Node.Parse
import Reduct.Reduction

namespace Reduct

/-- A session is an engine and the state that its runs change. -/
structure Session where
  engine : Engine
  state : State

/-- What a pass leaves to do. -/
inductive Settled where
  | done (value : Node)
  | again (program : Node)

namespace Engine

open Reduction

/-- A quote gives up its content and a value stands. A list loses its nulls and goes around again
unless it has stopped changing. -/
def settle (engine : Engine) (program reduced : Node) : Reduction Settled :=
  match reduced with
  | .quote inner => pure (.done inner)
  | .list (first :: rest) => do
    let compacted := Node.list ((first :: rest).filter fun item => !item.isNull)
    if engine.settings.irreducibleCheck && compacted.sameStructure program then
      note (.irreducible compacted)
      pure (.done compacted)
    else pure (.again compacted)
  | value => pure (.done (engine.library.valueOf .global value))

def round (engine : Engine) (inputs : Inputs) (first : Bool) (program : Node) :
    Reduction Settled := do
  let reduced ← engine.pass inputs .global first program
  engine.settle program reduced

/-- Rounds go on until one is done; no answer means that the bound on their number was reached. -/
def rounds (engine : Engine) (inputs : Inputs) : Nat → Bool → Node → Reduction (Option Node)
  | 0, _, _ => pure none
  | bound + 1, first, program => do
    match ← engine.round inputs first program with
    | .done value => pure (some value)
    | .again next => rounds engine inputs bound false next

/-- A run counts its steps from zero and may look for unknown names first. -/
def run (engine : Engine) (inputs : Inputs) (bound : Nat) (program : Node) :
    Reduction (Option Node) := do
  modify fun state => { state with counter := 0 }
  if engine.settings.preflightCheck then
    (engine.library.preflight program).forM fun name => note (.undefinedName name)
  engine.rounds inputs bound true program

end Engine

namespace Session

/-- A new session spends the budget of its settings and starts its random stream; the spare seed
is used when the settings have none. -/
def start (library : Library) (settings : Settings) (storage : Storage) (spareSeed : UInt64)
    (now : Nat) : Session :=
  let seed := settings.seed.getD spareSeed
  { engine := ⟨settings, library, seed⟩
    state :=
      { world := { storage := storage, stream := .start seed, now := now, notes := [] }
        meter := .start settings.balance settings.timeout now
        counter := 0 } }

/-- The session after a reduction, with the result. -/
def after {α : Type} (session : Session) (reduction : Reduction α) : Except Error α × Session :=
  let (result, state) := reduction.run session.state
  (result, { session with state := state })

/-- A program is run to its value. -/
def run (session : Session) (inputs : Inputs) (bound : Nat) (program : Node) :
    Except Error (Option Node) × Session :=
  session.after (session.engine.run inputs bound program)

/-- A program is reduced by one pass in a scope. -/
def step (session : Session) (inputs : Inputs) (scope : Scope) (program : Node) :
    Except Error Node × Session :=
  session.after (session.engine.pass inputs scope true program)

/-- Passes feed on their own results until a value, an error or a number of passes is reached. -/
def trace (inputs : Inputs) (scope : Scope) :
    Nat → Session → Node → List (Except Error Node) × Session
  | 0, session, _ => ([], session)
  | count + 1, session, program =>
    match session.step inputs scope program with
    | (.error error, next) => ([.error error], next)
    | (.ok node, next) =>
      if node.isValue then ([.ok node], next)
      else
        let (results, final) := trace inputs scope count next node
        (.ok node :: results, final)

/-- The unknown names of a program, each of which is noted. -/
def preflight (session : Session) (program : Node) : List String × Session :=
  let names := session.engine.library.preflight program
  let world :=
    names.foldl (fun world name => world.noting (.undefinedName name)) session.state.world
  (names, { session with state := { session.state with world := world } })

/-- The program of a source text; a lexical error is noted. -/
def parse (session : Session) (source : String) : Except Error Node × Session :=
  let (result, world) := (Action.ofSource (Node.parse source)).run session.state.world
  (result, { session with state := { session.state with world := world } })

def withStorage (session : Session) (storage : Storage) : Session :=
  { session with
    state := { session.state with world := { session.state.world with storage := storage } } }

def storage (session : Session) : Storage :=
  session.state.world.storage

/-- The notes so far in order, and the session without them. -/
def takeNotes (session : Session) : List Note × Session :=
  let world := session.state.world
  (world.notes.reverse,
    { session with state := { session.state with world := { world with notes := [] } } })

/-- Seed, counter, balance and store in their wire form. -/
def toJson (session : Session) : Json :=
  .object
    [("seed", .number (.integer session.engine.seed.toNat)),
      ("counter", .number (.integer session.state.counter)),
      ("balance", .number (.real session.state.meter.balance)),
      ("storage", session.storage.toNode.toJson)]

end Session

end Reduct
