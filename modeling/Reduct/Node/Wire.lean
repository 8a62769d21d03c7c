import Reduct.Node
import Reduct.Json.Printer
import Reduct.Json.Reader

namespace Reduct.Node

/-- A number without a double that JSON can hold is null, and a small integral one is an integer. -/
def numberToJson (value : Float) : Json :=
  match Number.Binary.ofFloat? value with
  | none => .null
  | some binary =>
    if binary.isWhole && value.abs < 9007199254740992.0 then .number (.integer binary.truncate)
    else .number (.real value)

mutual

/-- A quote is an object with the quote key alone. -/
def toJson : Node → Json
  | .null => .null
  | .bool value => .bool value
  | .number value => numberToJson value
  | .string text => .string text
  | .map entries => .object (entriesToJson entries)
  | .list items => .array (itemsToJson items)
  | .quote inner => .object [(quoteKey, toJson inner)]

def itemsToJson : List Node → List Json
  | [] => []
  | item :: rest => toJson item :: itemsToJson rest

def entriesToJson : List (String × Node) → List (String × Json)
  | [] => []
  | (key, value) :: rest => (key, toJson value) :: entriesToJson rest

end

mutual

/-- An object with the quote key alone is a quote. -/
def ofJson : Json → Node
  | .null => .null
  | .bool value => .bool value
  | .number value => .number value.toFloat
  | .string text => .string text
  | .array items => .list (itemsOfJson items)
  | .object [(key, value)] =>
    if key = quoteKey then .quote (ofJson value) else .map [(key, ofJson value)]
  | .object members => .map (entriesOfJson members)

def itemsOfJson : List Json → List Node
  | [] => []
  | item :: rest => ofJson item :: itemsOfJson rest

def entriesOfJson : List (String × Json) → List (String × Node)
  | [] => []
  | (key, value) :: rest => (key, ofJson value) :: entriesOfJson rest

end

/-- A node in the form that the wire gives it back. -/
def canonical (node : Node) : Node :=
  ofJson node.toJson

def render (node : Node) : String :=
  node.toJson.render

def renderList (items : List Node) : String :=
  (Node.list items).render

def read (text : String) : Except Json.Fault Node := do
  pure (ofJson (← Json.read text))

end Reduct.Node
