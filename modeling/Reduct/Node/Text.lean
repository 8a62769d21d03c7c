import Reduct.Node
import Reduct.Number.Layout
import Reduct.Number.Literal

namespace Reduct.Node

mutual

/-- The text of a node; the items of a list stand between commas. -/
def toText : Node → String
  | .null => "null"
  | .bool value => if value then "true" else "false"
  | .number value => Number.display value
  | .string text => text
  | .map _ => "[object Object]"
  | .list items => String.intercalate "," (itemTexts items)
  | .quote _ => "[object Object]"

/-- The texts of items, where null is empty. -/
def itemTexts : List Node → List String
  | [] => []
  | .null :: rest => "" :: itemTexts rest
  | item :: rest => toText item :: itemTexts rest

end

def toNumber (node : Node) : Float :=
  match node with
  | .null => 0.0
  | .bool value => if value then 1.0 else 0.0
  | .number value => value
  | .string text => Number.ofText text
  | .map _ => Number.notANumber
  | .list _ => Number.ofText node.toText
  | .quote _ => Number.notANumber

/-- Texts and structures are joined as texts, and all else is added. -/
def add (left right : Node) : Node :=
  let textual (node : Node) : Bool :=
    match node with
    | .string _ => true
    | .list _ => true
    | .map _ => true
    | .quote _ => true
    | _ => false
  if textual left || textual right then .string (left.toText ++ right.toText)
  else .number (left.toNumber + right.toNumber)

end Reduct.Node
