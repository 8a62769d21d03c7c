namespace Reduct

/-- A node is an atom, an ordered map, a list, or data withheld from reduction by a quote. -/
inductive Node where
  | null
  | bool (value : Bool)
  | number (value : Float)
  | string (text : String)
  | map (entries : List (String × Node))
  | list (items : List Node)
  | quote (inner : Node)
  deriving Inhabited

namespace Node

/-- The key that stands for a quote on the wire. -/
def quoteKey : String := "'"

def quotedList (items : List Node) : Node :=
  .quote (.list items)

def typeName : Node → String
  | .null => "null"
  | .bool _ => "bool"
  | .number _ => "number"
  | .string _ => "string"
  | .map _ => "hash"
  | .list _ => "list"
  | .quote _ => "quote"

def isNull : Node → Bool
  | .null => true
  | _ => false

def isList : Node → Bool
  | .list _ => true
  | _ => false

def isEmptyList : Node → Bool
  | .list [] => true
  | _ => false

/-- A value needs no reduction: it is the empty list or no list at all. -/
def isValue : Node → Bool
  | .list items => items.isEmpty
  | _ => true

def string? : Node → Option String
  | .string text => some text
  | _ => none

def number? : Node → Option Float
  | .number value => some value
  | _ => none

/-- The string at the front of some items. -/
def headName? : List Node → Option String
  | first :: _ => first.string?
  | [] => none

def operator? : Node → Option String
  | .list items => headName? items
  | _ => none

/-- Items are invocable when a string leads them. -/
def isInvocable (items : List Node) : Bool :=
  (headName? items).isSome

/-- Items are ready for a call when every argument is a value. -/
def isCallReady (items : List Node) : Bool :=
  (items.drop 1).all isValue

/-- The names that withhold the last item of a list. -/
def isQuoteName (name : String) : Bool :=
  name == "quote" || name == quoteKey

/-- Items form a quote when a quote name leads them. -/
def isQuoteForm (items : List Node) : Bool :=
  match headName? items with
  | some name => isQuoteName name
  | none => false

/-- One level of quoting is removed. -/
def unquoted : Node → Node
  | .quote inner => inner
  | other => other

/-- A list is withheld from reduction and any other node stays. -/
def withheld (node : Node) : Node :=
  if node.isList then .quote node else node

/-- A list whose only item is a list collapses to that item. -/
def denest : Node → Node
  | .list [inner] => if inner.isList then denest inner else .list [inner]
  | other => other

mutual

/-- Two nodes agree when they have one shape and their numbers are related. -/
def agree (related : Float → Float → Bool) : Node → Node → Bool
  | .null, .null => true
  | .bool left, .bool right => left == right
  | .number left, .number right => related left right
  | .string left, .string right => left == right
  | .map left, .map right => agreeEntries related left right
  | .list left, .list right => agreeItems related left right
  | .quote left, .quote right => agree related left right
  | _, _ => false

def agreeItems (related : Float → Float → Bool) : List Node → List Node → Bool
  | [], [] => true
  | left :: lefts, right :: rights => agree related left right && agreeItems related lefts rights
  | _, _ => false

def agreeEntries (related : Float → Float → Bool) :
    List (String × Node) → List (String × Node) → Bool
  | [], [] => true
  | (leftKey, left) :: lefts, (rightKey, right) :: rights =>
    leftKey == rightKey && agree related left right && agreeEntries related lefts rights
  | _, _ => false

end

/-- Equality of nodes, in which the number that is none differs from itself. -/
def equal (left right : Node) : Bool :=
  agree (· == ·) left right

/-- Equality of nodes, in which the number that is none equals itself. -/
def sameStructure (left right : Node) : Bool :=
  agree (fun a b => a == b || (a.isNaN && b.isNaN)) left right

/-- A node counts as true unless it is null, false, zero, no number or the empty text. -/
def truthy : Node → Bool
  | .null => false
  | .bool value => value
  | .number value => !(value == 0.0) && !value.isNaN
  | .string text => !text.isEmpty
  | .map _ => true
  | .list _ => true
  | .quote _ => true

end Node

end Reduct
