/-! This file defines JSON values with integers kept apart from doubles. -/

namespace Reduct

/-- A JSON number is an integer of sixty-four bits or a double. -/
inductive Json.Number where
  | integer (value : Int)
  | real (value : Float)

def Json.Number.toFloat : Json.Number → Float
  | .integer value => Float.ofInt value
  | .real value => value

/-- A JSON value; the members of an object are written in the order in which they stand. -/
inductive Json where
  | null
  | bool (value : Bool)
  | number (value : Json.Number)
  | string (text : String)
  | array (items : List Json)
  | object (members : List (String × Json))
  deriving Inhabited

end Reduct
