namespace Reduct

inductive Token.Kind where
  | openList
  | close
  | openQuote
  | openArray
  | closeArray
  | identifier
  | number
  | suffixedNumber
  | string
  | json
  deriving DecidableEq, Repr

def Token.Kind.isOpen : Token.Kind → Bool
  | .openList => true
  | .openQuote => true
  | .openArray => true
  | _ => false

def Token.Kind.isClose : Token.Kind → Bool
  | .close => true
  | .closeArray => true
  | _ => false

/-- A token has its text and the place where it starts. -/
structure Token where
  kind : Token.Kind
  lexeme : String
  line : Nat
  column : Nat
  keyword : Bool := false
  deriving DecidableEq, Repr

/-- A place in a source text, counted from one. -/
structure Position where
  line : Nat
  column : Nat
  deriving DecidableEq, Repr

namespace Position

def start : Position := ⟨1, 1⟩

/-- A newline starts the next line. -/
def advance (position : Position) (char : Char) : Position :=
  if char = '\n' then ⟨position.line + 1, 1⟩ else ⟨position.line, position.column + 1⟩

def after (position : Position) (chars : List Char) : Position :=
  chars.foldl advance position

end Position

end Reduct
