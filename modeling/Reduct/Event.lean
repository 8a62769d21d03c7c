import Reduct.Json.Record
import Reduct.Node.Wire

namespace Reduct

structure Event where
  name : String
  payload : Node

namespace Event

/-- The pattern that every event matches. -/
def wildcard : String := "*"

/-- An event matches its own name and the wildcard. -/
def isMatchedBy (event : Event) (pattern : String) : Bool :=
  pattern == wildcard || pattern == event.name

/-- The fields of an event on the wire; the payload may be left out. -/
def record : Json.Record Event where
  title := "struct Event"
  fields := ["name", "payload"]
  required := ["name"]
  read := fun field event chars =>
    if field = "name" then do
      let (name, rest) ← Json.stringField chars
      pure ({ event with name := name }, rest)
    else do
      let (payload, rest) ← Json.Reader.value (Json.Reader.maximumDepth - 1) chars
      pure ({ event with payload := Node.ofJson payload }, rest)

def ofText (text : String) : Except Json.Fault Event :=
  record.ofText ⟨"", .null⟩ text

def toJson (event : Event) : Json :=
  .object [("name", .string event.name), ("payload", event.payload.toJson)]

end Event

end Reduct
