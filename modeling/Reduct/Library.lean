import Reduct.World

namespace Reduct

/-- What a function knows about its call. The identifier is the number of a step; it stands for one
of 64 bits, and no run takes so many steps. -/
structure Call where
  id : Nat
  seed : UInt64
  name : String
  list : List Node
  argv : List Node
  event : Option Event
  scope : Scope

/-- A function declares its inputs and its purity, and acts on values. The action is a whole call:
it goes from the arguments to the result, and nothing else is done in between. Calls that suspend
themselves and are resumed later are left out. -/
structure Function where
  signature : Option Signature
  impure : Bool
  call : Call → List Node → Action Node

/-- A caster turns arguments into a value. -/
abbrev Caster := List Node → Except Error Node

/-- What a preprocessor knows about its program. -/
structure Preprocessing where
  id : Nat
  seed : UInt64
  argv : List Node
  event : Option Event

/-- A preprocessor turns its own form and the forms after it into a new program. -/
abbrev Preprocessor := Preprocessing → List Node → List Node → Action (List Node)

/-- A library resolves names in scopes. -/
structure Library where
  function? : String → Scope → Option Function
  caster? : String → Scope → Option Caster
  constant? : String → Scope → Option Node
  preprocessor? : String → Scope → Option Preprocessor
  price? : String → Scope → Option Float
  opensScope : String → Scope → Bool

namespace Library

def inputs? (library : Library) (name : String) (scope : Scope) : Option Signature :=
  (library.function? name scope).bind (·.signature)

def isImpure (library : Library) (name : String) (scope : Scope) : Bool :=
  (library.function? name scope).any (·.impure)

/-- Whether a name is bound to anything that a list can be headed by. -/
def resolves (library : Library) (name : String) (scope : Scope) : Bool :=
  (library.function? name scope).isSome || (library.preprocessor? name scope).isSome ||
    (library.caster? name scope).isSome || (library.constant? name scope).isSome

/-- The scope of the items of a list: its head is pushed when it opens a scope. -/
def innerScope (library : Library) (scope : Scope) (items : List Node) : Scope :=
  match Node.headName? items with
  | some name => if library.opensScope name scope then scope.push name else scope
  | none => scope

/-- A text that names a constant stands for it. -/
def valueOf (library : Library) (scope : Scope) : Node → Node
  | .string name => (library.constant? name scope).getD (.string name)
  | other => other

end Library

end Reduct
