import Reduct.Error
import Reduct.Scope

namespace Reduct

/-- How loud a note is. -/
inductive Level where
  | error
  | warn
  | info
  | debug
  deriving DecidableEq, Repr

/-- What a name can be bound to in a library. -/
inductive Binding.Kind where
  | function
  | type
  | constant
  | preprocessor
  deriving DecidableEq, Repr

def Binding.Kind.word : Binding.Kind → String
  | .function => "function"
  | .type => "type"
  | .constant => "constant"
  | .preprocessor => "preprocessor"

inductive Note where
  | lexerFailed (line column : Nat) (snippet : String)
  | reductionFailed (error : Error)
  | undefinedName (name : String)
  | impureCall (name : String)
  | reducing (step : Nat) (scope : Scope) (items : List Node)
  | irreducible (node : Node)
  | printed (step : Nat) (text : String)
  | expanding (name : String)
  | redefined (kind : Binding.Kind) (name : String)
  | aliasUndefined (kind : Binding.Kind) (aliasName name : String)

namespace Note

def level : Note → Level
  | .lexerFailed _ _ _ => .error
  | .reductionFailed _ => .error
  | .undefinedName _ => .warn
  | .impureCall _ => .warn
  | .reducing _ _ _ => .debug
  | .irreducible _ => .warn
  | .printed _ _ => .info
  | .expanding _ => .debug
  | .redefined _ _ => .warn
  | .aliasUndefined _ _ _ => .warn

def message : Note → String
  | .lexerFailed _ _ snippet => s!"lexer failed near `{snippet}`"
  | .reductionFailed _ => "reduction failed"
  | .undefinedName name => s!"preflight: `{name}` is not defined"
  | .impureCall name => s!"calling impure function `{name}`"
  | .reducing _ _ items => s!"reducing {Node.renderList items}"
  | .irreducible node => s!"irreducible list, returning it as is: {node.render}"
  | .printed _ text => text
  | .expanding _ => "expanding definition"
  | .redefined kind name => s!"redefining {kind.word} `{name}`"
  | .aliasUndefined kind _ name => s!"cannot alias undefined {kind.word} `{name}`"

def fields : Note → List (String × String)
  | .lexerFailed line column _ => [("line", toString line), ("column", toString column)]
  | .reductionFailed error => [("error", error.message)]
  | .undefinedName name => [("name", name)]
  | .impureCall name => [("name", name)]
  | .reducing step scope _ => [("step", toString step), ("scope", scope.display)]
  | .irreducible _ => []
  | .printed step _ => [("step", toString step)]
  | .expanding name => [("name", name)]
  | .redefined _ name => [("name", name)]
  | .aliasUndefined _ aliasName name => [("alias", aliasName), ("name", name)]

/-- The note that a lexical error leaves. -/
def ofError? : Error → Option Note
  | .lex line column snippet => some (.lexerFailed line column snippet)
  | _ => none

end Note

end Reduct
