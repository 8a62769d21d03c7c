import Reduct.Event
import Reduct.Journal
import Reduct.RandomStream
import Reduct.Storage

namespace Reduct

/-- A world has the store, the random stream, the reading of the clock in milliseconds, and the
notes so far with the latest first. -/
structure World where
  storage : Storage
  stream : RandomStream
  now : Nat
  notes : List Note

/-- An action changes the world and yields a result or an error. -/
abbrev Action := ExceptT Error (StateM World)

namespace World

def noting (world : World) (note : Note) : World :=
  { world with notes := note :: world.notes }

end World

namespace Action

def note (note : Note) : Action Unit :=
  modify (·.noting note)

def random : Action Float := do
  let world ← get
  let (value, stream) := world.stream.next
  set { world with stream := stream }
  pure value

/-- The stored node at a path. -/
def load? (path : String) : Action (Option Node) := do
  pure ((← get).storage.get? path)

def store (path : String) (value : Node) : Action Unit := do
  let world ← get
  match world.storage.set path value with
  | .ok storage => set { world with storage := storage }
  | .error error => throw error

/-- A result that needs no world; a lexical error leaves its note. -/
def ofSource {α : Type} (result : Except Error α) : Action α :=
  match result with
  | .ok value => pure value
  | .error error => do
    match Note.ofError? error with
    | some entry => note entry
    | none => pure ()
    throw error

/-- A result that needs no world. -/
def lift {α : Type} (result : Except Error α) : Action α :=
  match result with
  | .ok value => pure value
  | .error error => throw error

end Action

end Reduct
