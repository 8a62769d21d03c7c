namespace Reduct

/-- The declared inputs of a function; type tags describe and only the count is checked. -/
inductive Signature where
  | any
  | nothing
  | positional (types : List String) (rest : Bool)
  deriving DecidableEq, Repr

namespace Signature

/-- The tag that allows further arguments. -/
def restMarker : String := "..."

/-- Tags by position; a rest marker at the end allows further arguments. -/
def ofTags (tags : List String) : Signature :=
  if tags.getLast? = some restMarker then .positional tags.dropLast true
  else .positional tags false

/-- The number of arguments, when it is fixed. -/
def arity? : Signature → Option Nat
  | .any => none
  | .nothing => some 0
  | .positional _ true => none
  | .positional types false => some types.length

/-- The ways in which a count of arguments can be wrong. -/
inductive Mismatch where
  | notPermitted
  | count (types : List String) (got : Nat)
  deriving DecidableEq, Repr

def Mismatch.message (name : String) : Mismatch → String
  | .notPermitted => s!"`{name}` doesn't permit any arguments!"
  | .count types got =>
    let tags := String.intercalate ", " types
    s!"`{name}` expected {types.length} argument(s) ({tags}) but got {got}"

/-- A count of arguments is compared with the declared inputs, if there are any. -/
def check (signature : Option Signature) (count : Nat) : Except Mismatch Unit :=
  match signature with
  | none => .ok ()
  | some .any => .ok ()
  | some .nothing => if count = 0 then .ok () else .error .notPermitted
  | some (.positional _ true) => .ok ()
  | some (.positional types false) =>
    if types.length = count then .ok () else .error (.count types count)

end Signature

end Reduct
