import Reduct.Standard.Argument

namespace Reduct.Standard

/-- A value is put at a path and is the answer. -/
def storeValue (arguments : List Node) : Action Node := do
  let value := argument arguments 1
  Action.store (← Action.lift (textArgument arguments 0)) value
  pure value.withheld

def store : List Binding :=
  [ actsImpurely "store.get" (.ofTags ["string"]) fun _ arguments => do
      let path ← Action.lift (textArgument arguments 0)
      pure (found (← Action.load? path)),
    actsImpurely "store.has" (.ofTags ["string"]) fun _ arguments => do
      let path ← Action.lift (textArgument arguments 0)
      pure (.bool ((← get).storage.has path)),
    actsImpurely "store.set" (.ofTags ["string", "*"]) fun _ arguments => storeValue arguments ]

end Reduct.Standard
