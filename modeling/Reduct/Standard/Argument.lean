import Reduct.Library.Table

namespace Reduct.Standard

/-- The argument at a position, and null when there is none. -/
def argument (arguments : List Node) (index : Nat) : Node :=
  arguments[index]?.getD .null

def textArgument (arguments : List Node) (index : Nat) : Except Error String :=
  match argument arguments index with
  | .string text => .ok text
  | other => .error (.mistyped "string" other)

def listArgument (arguments : List Node) (index : Nat) : Except Error (List Node) :=
  match argument arguments index with
  | .list items => .ok items
  | other => .error (.mistyped "list" other)

def mapArgument (arguments : List Node) (index : Nat) : Except Error (List (String × Node)) :=
  match argument arguments index with
  | .map entries => .ok entries
  | other => .error (.mistyped "hash" other)

/-- A node that was looked up, withheld from reduction, and null when nothing was found. -/
def found (node : Option Node) : Node :=
  (node.map Node.withheld).getD .null

/-- A pure function that sees its call and its world. -/
def acts (name : String) (signature : Signature) (call : Call → List Node → Action Node) :
    Binding :=
  .function name { signature := some signature, impure := false, call := call }

/-- An impure function that sees its call and its world. -/
def actsImpurely (name : String) (signature : Signature) (call : Call → List Node → Action Node) :
    Binding :=
  .function name { signature := some signature, impure := true, call := call }

/-- A function of its arguments alone. -/
def computes (name : String) (signature : Signature) (compute : List Node → Except Error Node) :
    Binding :=
  acts name signature fun _ arguments => Action.lift (compute arguments)

/-- A function of its arguments alone that never fails. -/
def yields (name : String) (signature : Signature) (compute : List Node → Node) : Binding :=
  computes name signature fun arguments => .ok (compute arguments)

end Reduct.Standard
