import Reduct.Standard.Closure

namespace Reduct

/-- A definition names a closure. -/
structure Definition where
  name : String
  parameters : List Node
  body : Node

namespace Definition

/-- Parameters are texts and end at the quoted list that is the body. -/
def parametersAndBody? : List Node → Option (List Node × Node)
  | .string parameter :: rest =>
    (parametersAndBody? rest).map fun (parameters, body) => (.string parameter :: parameters, body)
  | .quote (.list items) :: _ => some ([], .quotedList items)
  | _ => none

/-- The definition of a form: a name, its parameters and a quoted body follow the head. -/
def ofForm (form : List Node) : Except Error Definition :=
  match form.drop 1 with
  | .string name :: rest =>
    match parametersAndBody? rest with
    | some (parameters, body) => .ok ⟨name, parameters, body⟩
    | none => .error (.missingDefinition "define expects a quoted body")
  | _ => .error (.missingDefinition "define expects a name")

/-- The items of a call become a closure with its arguments. -/
def expandCall (definition : Definition) (items : List Node) : List Node :=
  if Node.headName? items = some definition.name then
    .string Standard.lambdaName :: definition.parameters ++ definition.body :: items.drop 1
  else items

mutual

/-- Every call of a definition is expanded in a node, innermost calls first. -/
def apply (definition : Definition) : Node → Node
  | .list items => .list (definition.expandCall (applyItems definition items))
  | .quote inner => .quote (apply definition inner)
  | other => other

def applyItems (definition : Definition) : List Node → List Node
  | [] => []
  | item :: rest => apply definition item :: applyItems definition rest

end

end Definition

namespace Standard

/-- A definition is expanded in the forms after it. -/
def expandDefinition : Preprocessor := fun _ form program => do
  let definition ← Action.lift (Definition.ofForm form)
  Action.note (.expanding definition.name)
  pure (definition.applyItems program)

def definitions : List Binding :=
  [.preprocessor "define" expandDefinition]

end Standard

end Reduct
