import Reduct.Meter
import Reduct.Preflight
import Reduct.Settings

namespace Reduct

/-- The fixed part of a session. -/
structure Engine where
  settings : Settings
  library : Library
  seed : UInt64

/-- The arguments and the event that a run is started with. -/
structure Inputs where
  argv : List Node
  event : Option Event

/-- The part of a session that reductions change. The counter stands for one of 64 bits that would
wrap; no run takes so many steps. -/
structure State where
  world : World
  meter : Meter
  counter : Nat

/-- A reduction changes the state and yields a result or an error. -/
abbrev Reduction := ExceptT Error (StateM State)

namespace Reduction

def note (note : Note) : Reduction Unit :=
  modify fun state => { state with world := state.world.noting note }

/-- An error leaves a note and ends the reduction. -/
def fail {α : Type} (error : Error) : Reduction α := do
  note (.reductionFailed error)
  throw error

def orFail {α : Type} (result : Except Error α) : Reduction α :=
  match result with
  | .ok value => pure value
  | .error error => fail error

def perform {α : Type} (action : Action α) : Reduction α := do
  let state ← get
  let (result, world) := action.run state.world
  set { state with world := world }
  orFail result

def nextStep : Reduction Nat := do
  let state ← get
  set { state with counter := state.counter + 1 }
  pure (state.counter + 1)

/-- An amount is added to the balance, and a spent budget is an error. -/
def charge (amount : Float) (items : List Node) : Reduction Unit := do
  let state ← get
  let meter := state.meter.transact amount
  set { state with meter := meter }
  if meter.ok state.world.now then pure () else fail (.outOfGas (.list items))

end Reduction

namespace Engine

open Reduction

/-- The last item of a quote form, withheld unless it is a value. -/
def reduceQuote (engine : Engine) (items : List Node) : Reduction Node := do
  charge engine.settings.quoteAmount items
  let payload := items.getLast?.getD .null
  pure (if payload.isValue then payload else .quote payload)

/-- The function of a name, or else the fallback, with the name under which it was found. -/
def resolve? (engine : Engine) (scope : Scope) (requested : String) :
    Option (String × Function) :=
  match engine.library.function? requested scope with
  | some function => some (requested, function)
  | none =>
    (engine.library.function? engine.settings.fallback scope).map fun function =>
      (engine.settings.fallback, function)

/-- A price of the library is charged on top. -/
def chargePrice (engine : Engine) (scope : Scope) (name : String) (items : List Node) :
    Reduction Unit :=
  match engine.library.price? name scope with
  | some price => charge (-price) items
  | none => pure ()

/-- The count of arguments is checked when the settings ask for it. -/
def checkArity (engine : Engine) (scope : Scope) (name : String) (count : Nat) :
    Reduction Unit :=
  if engine.settings.arityCheck then
    match Signature.check (engine.library.inputs? name scope) count with
    | .ok _ => pure ()
    | .error mismatch => fail (.signature name mismatch)
  else pure ()

/-- An impure function may be forbidden or announced. -/
def checkPurity (engine : Engine) (scope : Scope) (name : String) : Reduction Unit :=
  if engine.library.isImpure name scope then
    if !engine.settings.allowImpure then fail (.impurity name)
    else if engine.settings.warnImpure then note (.impureCall name)
    else pure ()
  else pure ()

/-- The arguments of a call: one quote is removed and names of constants are replaced. -/
def arguments (engine : Engine) (scope : Scope) (items : List Node) : List Node :=
  (items.drop 1).map fun item => engine.library.valueOf scope item.unquoted

/-- A name without a function is a caster, a constant, or itself. -/
def invokeOther (engine : Engine) (scope : Scope) (requested : String)
    (items arguments : List Node) : Reduction Node :=
  match engine.library.caster? requested scope with
  | some caster => orFail (caster arguments)
  | none =>
    match engine.library.constant? requested scope with
    | some constant =>
      pure (if arguments.isEmpty then constant else .list (constant :: items.drop 1))
    | none => pure (if arguments.isEmpty then .string requested else .list items)

/-- A call is charged, resolved, checked and made. -/
def invoke (engine : Engine) (inputs : Inputs) (scope : Scope) (id : Nat) (requested : String)
    (items : List Node) : Reduction Node := do
  charge engine.settings.invokeAmount items
  let arguments := engine.arguments scope items
  match engine.resolve? scope requested with
  | some (name, function) =>
    engine.chargePrice scope name items
    engine.checkArity scope name arguments.length
    engine.checkPurity scope name
    let call : Call :=
      { id := id, seed := engine.seed, name := requested, list := items, argv := inputs.argv,
        event := inputs.event, scope := scope }
    perform (function.call call arguments)
  | none => engine.invokeOther scope requested items arguments

/-- The first error by position, or all results. -/
def gather : List (Except Error Node) → Except Error (List Node)
  | [] => .ok []
  | .error error :: _ => .error error
  | .ok node :: rest => do pure (node :: (← gather rest))

/-- Reduced items stay a list when a name leads them, and otherwise the last one remains. -/
def sequenceResult (items : List Node) : Node :=
  if Node.isInvocable items then .list items else items.getLast?.getD .null

/-- A step is announced when the settings ask for it. -/
def announce (engine : Engine) (scope : Scope) (id : Nat) (items : List Node) : Reduction Unit :=
  if engine.settings.debug then note (.reducing id scope items) else pure ()

mutual

/-- A list is a quote, a call that is ready, or a sequence whose items are reduced first. -/
def branch (engine : Engine) (inputs : Inputs) (scope : Scope) : Node → Reduction Node
  | .list items => do
    let id ← nextStep
    engine.announce scope id items
    if Node.isQuoteForm items then engine.reduceQuote items
    else
      match Node.headName? items, Node.isCallReady items with
      | some requested, true => engine.invoke inputs scope id requested items
      | _, _ =>
        if items.isEmpty then pure (.list [])
        else do
          charge (engine.settings.sequenceAmount * Float.ofNat items.length) items
          let results ← branches engine inputs (engine.library.innerScope scope items) items
          match gather results with
          | .ok reduced => pure (sequenceResult reduced)
          | .error error => throw error
  | other => pure other

/-- Every item is reduced, whether or not an earlier one fails. It is assumed that a join of items
starts them from left to right; as no call is suspended, each ends before the next one starts. -/
def branches (engine : Engine) (inputs : Inputs) (scope : Scope) :
    List Node → StateM State (List (Except Error Node))
  | [] => pure []
  | item :: rest => do
    let result ← (branch engine inputs scope item).run
    let results ← branches engine inputs scope rest
    pure (result :: results)

end

/-- The leading forms that preprocessors claim, and the program after them. -/
def leadingForms (engine : Engine) : List Node → List (Preprocessor × List Node) × List Node
  | .list form :: rest =>
    match (Node.headName? form).bind fun name => engine.library.preprocessor? name .global with
    | some preprocessor =>
      let (forms, program) := leadingForms engine rest
      ((preprocessor, form) :: forms, program)
    | none => ([], .list form :: rest)
  | program => ([], program)

/-- Preprocessors are applied in order to the program after their forms. -/
def expandForms (context : Preprocessing) :
    List (Preprocessor × List Node) → List Node → Reduction (List Node)
  | [], program => pure program
  | (preprocessor, form) :: later, program => do
    expandForms context later (← perform (preprocessor context form program))

/-- The program after its leading preprocessor forms. -/
def preprocess (engine : Engine) (inputs : Inputs) (program : List Node) :
    Reduction (List Node) := do
  let (forms, rest) := engine.leadingForms program
  let state ← get
  let context : Preprocessing :=
    { id := state.counter, seed := engine.seed, argv := inputs.argv, event := inputs.event }
  expandForms context forms rest

/-- One pass over a program; the arguments of the run may join it at the end. -/
def pass (engine : Engine) (inputs : Inputs) (scope : Scope) (appendArgv : Bool) (program : Node) :
    Reduction Node :=
  if program.isNull then fail .badInput
  else
    match program.denest with
    | .list items => do
      let expanded ← engine.preprocess inputs items
      let full := if appendArgv then expanded ++ inputs.argv else expanded
      engine.branch inputs scope (.list full)
    | value => pure value

end Engine

end Reduct
