import Reduct.Node.Parse
import Reduct.Node.Text
import Reduct.Standard.Closure
/-! This file binds the control forms. None of them reduces anything itself: each one turns its
arguments into a program for a later pass. -/

namespace Reduct.Standard

mutual

/-- A name is replaced in a node outside of quotes. -/
def replaceName (name : String) (value : Node) : Node → Node
  | .list items => .list (replaceNameItems name value items)
  | .string text => if text = name then value else .string text
  | other => other

def replaceNameItems (name : String) (value : Node) : List Node → List Node
  | [] => []
  | item :: rest => replaceName name value item :: replaceNameItems name value rest

end

/-- The second item of a call names the third throughout the items after it. The call itself is
read, so the third item keeps its quotes. -/
def bindName (items : List Node) : Except Error Node :=
  match items.drop 1 with
  | .string name :: rest =>
    .ok (.list (replaceNameItems name (argument rest 0) (rest.drop 1)))
  | other =>
    .error (.missingDefinition s!"let expects a name, got {(argument other 0).render}")

mutual

/-- A placeholder is replaced in a node outside of quotes and closures. -/
def fill (placeholder : String) (payload : Node) : Node → Node
  | .list items =>
    if Node.headName? items = some lambdaName then .list items
    else .list (fillItems placeholder payload items)
  | .string text => if text = placeholder then payload else .string text
  | other => other

def fillItems (placeholder : String) (payload : Node) : List Node → List Node
  | [] => []
  | item :: rest => fill placeholder payload item :: fillItems placeholder payload rest

end

/-- The reaction to an event that matches, with its payload in place, and otherwise null. -/
def react (event : Option Event) (arguments : List Node) : Except Error Node :=
  match event with
  | none => .ok .null
  | some event =>
    if event.isMatchedBy (argument arguments 0).toText then do
      let reaction ← listArgument arguments 2
      pure (.list (fillItems (argument arguments 1).toText event.payload reaction))
    else .ok .null

/-- The mark between the stages of a pipeline. -/
def stageMark : String := "|>"

/-- The stages between the marks. -/
def stages : List Node → List (List Node)
  | [] => [[]]
  | node :: rest =>
    match node.string?, stages rest with
    | some text, later =>
      if text = stageMark then [] :: later
      else match later with
        | [] => [[node]]
        | stage :: others => (node :: stage) :: others
    | none, [] => [[node]]
    | none, stage :: others => (node :: stage) :: others

/-- Each stage of a pipeline becomes the last item of the next stage. -/
def compose (arguments : List Node) : Node :=
  match stages arguments with
  | [] => .list []
  | first :: later => later.foldl (fun inner stage => .list (stage ++ [inner])) (.list first)

/-- The next step is left to be reduced, with the steps after it withheld. Without steps the result
of the previous one is the answer. -/
def stack (arguments : List Node) : Except Error Node := do
  match ← listArgument arguments 0 with
  | [] => pure (.quote (argument arguments 1))
  | step :: later => pure (.list [.string "stack", .quotedList later, step])

/-- Every step is nested into the next one, whose value is kept. -/
def sequence : List Node → Node
  | [] => .null
  | first :: later =>
    later.foldl (fun inner step => .list [.string "identity", step, inner])
      (.list [.string "identity", first])

/-- A condition that does not hold is an error. -/
def assertion (arguments : List Node) : Except Error Node :=
  if (argument arguments 0).truthy then .ok (.bool true)
  else
    .error (.assertionFailed
      (match arguments[1]? with
      | some message => message.toText
      | none => "Assertion failed!"))

/-- The texts of the arguments are noted, and the first argument is the answer. -/
def print (call : Call) (arguments : List Node) : Action Node := do
  Action.note (.printed call.id (String.intercalate " " (arguments.map Node.toText)))
  pure (argument arguments 0)

/-- The program of a source text. -/
def evaluate (arguments : List Node) : Action Node := do
  let source ← Action.lift (textArgument arguments 0)
  Action.ofSource (Node.parse source)

def control : List Binding :=
  [ yields "if" (.ofTags ["bool", "list", "string", "list"]) fun arguments =>
      argument arguments (if (argument arguments 0).truthy then 1 else 3),
    yields "identity" .any fun arguments => argument arguments 0,
    acts "let" (.ofTags ["string", "..."]) fun call _ => Action.lift (bindName call.list),
    acts "event" (.ofTags ["string", "string", "list"]) fun call arguments =>
      Action.lift (react call.event arguments),
    yields "after" (.ofTags ["number", "list"]) fun arguments => argument arguments 1,
    acts "eval" (.ofTags ["string"]) fun _ arguments => evaluate arguments,
    acts "argv" .nothing fun call _ => pure (.quotedList call.argv),
    yields "compose" .any compose,
    .aliasFunction stageMark "compose",
    computes "stack" (.ofTags ["list", "..."]) stack,
    yields "series" .any fun arguments => .list [.string "stack", .quotedList arguments],
    .aliasFunction "$" "series",
    yields "sequence" .any sequence,
    computes "error.throw" (.ofTags ["string"]) fun arguments =>
      .error (.thrown (argument arguments 0).toText),
    computes "assert" (.ofTags ["*", "..."]) assertion,
    actsImpurely "print" .any print ]

end Reduct.Standard
