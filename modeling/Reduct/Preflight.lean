import Reduct.Library

namespace Reduct.Library

/-- A head that is not a quote name and resolves to nothing is added once. -/
def reportHead (library : Library) (scope : Scope) (items : List Node) (found : List String) :
    List String :=
  match Node.headName? items with
  | some name =>
    if Node.isQuoteName name || library.resolves name scope || found.contains name then found
    else found ++ [name]
  | none => found

mutual

/-- The unknown names of a node join those found so far. -/
def unresolvedIn (library : Library) (scope : Scope) : Node → List String → List String
  | .list items, found =>
    unresolvedItems library (library.innerScope scope items) items
      (library.reportHead scope items found)
  | .quote inner, found => unresolvedIn library scope inner found
  | _, found => found

def unresolvedItems (library : Library) (scope : Scope) : List Node → List String → List String
  | [], found => found
  | item :: rest, found =>
    unresolvedItems library scope rest (unresolvedIn library scope item found)

end

/-- The unknown names of a program in the order of their first occurrence. -/
def preflight (library : Library) (program : Node) : List String :=
  library.unresolvedIn .global program []

end Reduct.Library
