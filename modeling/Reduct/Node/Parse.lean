import Reduct.Number.Literal
import Reduct.Token.Scan

namespace Reduct.Node

/-- The text without its first and its last character. -/
def stripDelimiters (text : String) : List Char :=
  (text.toList.drop 1).dropLast

/-- The leaf of a token that neither opens nor closes a list. -/
def ofAtom (token : Token) : Except Error Node :=
  match token.kind with
  | .number =>
    match Number.literal? token.lexeme.toList with
    | some value => .ok (.number value)
    | none => .error (.invalidNumber token.lexeme token.line token.column)
  | .string => .ok (.string (String.ofList (stripDelimiters token.lexeme)))
  | .json =>
    match read (String.ofList (stripDelimiters token.lexeme)) with
    | .ok node => .ok node
    | .error fault => .error (.invalidInlineJson token.line token.column fault)
  | _ => .ok (.string token.lexeme)

/-- A list that is still open, with its items so far in reverse. -/
structure Frame where
  quoted : Bool
  items : List Node

def Frame.close (frame : Frame) : Node :=
  let list := Node.list frame.items.reverse
  if frame.quoted then .quote list else list

/-- The state of an assembly: delimiters so far, open frames innermost first, finished forms in
reverse. -/
structure Assembly where
  opened : Nat
  closed : Nat
  frames : List Frame
  forms : List Node

namespace Assembly

def empty : Assembly := ⟨0, 0, [], []⟩

/-- A node joins the innermost open list. -/
def push (assembly : Assembly) (node : Node) : Assembly :=
  match assembly.frames with
  | [] => { assembly with forms := node :: assembly.forms }
  | frame :: outer =>
    { assembly with frames := { frame with items := node :: frame.items } :: outer }

/-- One token opens a list, closes one or adds a leaf. -/
def step (assembly : Assembly) (token : Token) : Except Error Assembly :=
  if token.kind.isOpen then
    .ok { assembly with
      opened := assembly.opened + 1
      frames := ⟨decide (token.kind ≠ .openList), []⟩ :: assembly.frames }
  else if token.kind.isClose then
    match assembly.frames with
    | [] => .error (.mismatchedClose (assembly.closed + 1) assembly.opened)
    | frame :: outer =>
      .ok (push { assembly with closed := assembly.closed + 1, frames := outer } frame.close)
  else do pure (push assembly (← ofAtom token))

def steps : Assembly → List Token → Except Error Assembly
  | assembly, [] => .ok assembly
  | assembly, token :: rest => do steps (← assembly.step token) rest

end Assembly

/-- The program of some tokens in canonical form. -/
def ofTokens (tokens : List Token) : Except Error Node := do
  let assembly ← Assembly.empty.steps tokens
  if assembly.closed < assembly.opened then
    .error (.mismatchedOpen assembly.closed assembly.opened)
  else pure (canonical (.list assembly.forms.reverse))

def parse (source : String) : Except Error Node := do
  ofTokens (← Token.scan source)

end Reduct.Node
