import Reduct.Node.Text
import Reduct.Standard.Argument

namespace Reduct.Standard

/-- The node of a wire text, withheld when it is a list. -/
def ofWireText (arguments : List Node) : Except Error Node := do
  let source ← textArgument arguments 0
  match Node.read source with
  | .ok node => pure node.withheld
  | .error fault => throw (.typeError "JSON text" fault.message)

def hashes : List Binding :=
  [ computes "hash.fetch" (.ofTags ["hash", "string"]) fun arguments => do
      let entries ← mapArgument arguments 0
      pure (found (Entries.get? (argument arguments 1).toText entries)),
    computes "hash.set" (.ofTags ["hash", "string", "*"]) fun arguments => do
      let entries ← mapArgument arguments 0
      pure (.map (Entries.insert (argument arguments 1).toText (argument arguments 2) entries)),
    computes "hash.keys" (.ofTags ["hash"]) fun arguments => do
      let entries ← mapArgument arguments 0
      pure (.quotedList ((Entries.keys entries).map .string)),
    computes "hash.values" (.ofTags ["hash"]) fun arguments => do
      let entries ← mapArgument arguments 0
      pure (.quotedList (Entries.values entries)),
    yields "hash.to-json" (.ofTags ["*"]) fun arguments => .string (argument arguments 0).render,
    computes "hash.from-json" (.ofTags ["string"]) ofWireText ]

end Reduct.Standard
