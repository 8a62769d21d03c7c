import Reduct.Node.Text
import Reduct.Standard.Argument

namespace Reduct.Standard

/-- Keys and values alternate, and a key without a value is paired with null. -/
def keyedPairs : List Node → List (String × Node)
  | key :: value :: rest => (key.toText, value) :: keyedPairs rest
  | [key] => [(key.toText, .null)]
  | [] => []

/-- The map of alternating keys and values; the last value of a key wins. -/
def mapOfArguments (arguments : List Node) : Node :=
  .map (Entries.ofPairs (keyedPairs arguments))

/-- A caster that never fails. -/
def casts (name : String) (cast : List Node → Node) : Binding :=
  .caster name fun arguments => .ok (cast arguments)

def casters : List Binding :=
  [ casts "number" fun arguments => .number (argument arguments 0).toNumber,
    casts "string" fun arguments => .string (argument arguments 0).toText,
    casts "bool" fun arguments => .bool (argument arguments 0).truthy,
    casts "null" fun _ => .null,
    casts "list" Node.quotedList,
    casts "hash" mapOfArguments,
    .aliasCaster "#" "hash",
    casts "entity" fun arguments => argument arguments 0 ]

end Reduct.Standard
