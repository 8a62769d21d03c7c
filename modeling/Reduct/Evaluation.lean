import Reduct.Session
import Reduct.Standard

namespace Reduct

def version : String := "0.1.0"

/-- A source text is run in a session of its own once its settings are found valid. No answer means
that the bound on the number of passes was reached. -/
def evaluate (source : String) (inputs : Inputs) (settings : Settings) (spareSeed : UInt64)
    (now bound : Nat) : Except Error (Option Node) := do
  settings.validate
  let program ← Node.parse source
  ((Session.start Standard.library settings .empty spareSeed now).run inputs bound program).1

end Reduct
