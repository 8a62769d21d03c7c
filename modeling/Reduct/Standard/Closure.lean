import Reduct.Node.Text
import Reduct.Standard.Argument

namespace Reduct.Standard

/-- The name of the form that makes a closure. -/
def lambdaName : String := "lambda"

mutual

/-- Bound names are replaced in a node. A nested closure keeps its own names, and the content of a
quoted list is replaced as well. -/
def substitute (bindings : List (String × Node)) : Node → Node
  | .list items =>
    if Node.headName? items = some lambdaName then .list items
    else .list (substituteItems bindings items)
  | .quote (.list items) => .quotedList (substituteItems bindings items)
  | .string name => (Entries.get? name bindings).getD (.string name)
  | other => other

def substituteItems (bindings : List (String × Node)) : List Node → List Node
  | [] => []
  | item :: rest => substitute bindings item :: substituteItems bindings rest

end

/-- Names stand before the first list, which is the body. The nodes after it are bound to the names
by position. Once every name is bound the body is left to be reduced, and until then the result is
a quoted closure over the other names. -/
def lambda (arguments : List Node) : Except Error Node :=
  let names := arguments.takeWhile fun node => !node.isList
  match arguments.dropWhile fun node => !node.isList with
  | .list body :: parameters =>
    let bindings := Entries.ofPairs ((names.map Node.toText).zip (parameters.map Node.withheld))
    let executable := substituteItems bindings body
    match names.drop parameters.length with
    | [] => .ok (.list executable)
    | unbound =>
      .ok (.quotedList (.string lambdaName :: unbound ++ [.quotedList executable]))
  | _ => .error (.missingDefinition "lambda has no body")

/-- The arguments follow the items of a list. -/
def call (arguments : List Node) : Except Error Node := do
  let function ← listArgument arguments 0
  pure (.list (function ++ arguments.drop 1))

/-- A closure is handed a copy of itself before its arguments. -/
def callWithSelf (arguments : List Node) : Except Error Node := do
  let function ← listArgument arguments 0
  pure (.list (function ++ .list function :: arguments.drop 1))

def closures : List Binding :=
  [ computes lambdaName .any lambda,
    computes "call" (.ofTags ["list", "..."]) call,
    computes "ycomb" (.ofTags ["list", "..."]) callWithSelf ]

end Reduct.Standard
