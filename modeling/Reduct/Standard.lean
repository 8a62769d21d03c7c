import Reduct.Standard.Caster
import Reduct.Standard.Clock
import Reduct.Standard.Constant
import Reduct.Standard.Control
import Reduct.Standard.Definition
import Reduct.Standard.Hash
import Reduct.Standard.Listing
import Reduct.Standard.Store
import Reduct.Standard.Wording

namespace Reduct.Standard

def bindings : List Binding :=
  constants ++ casters ++ arithmetic ++ closures ++ control ++ definitions ++ lists ++ hashes ++
    words ++ digests ++ clock ++ store

def table : Table :=
  (Table.empty.bindAll bindings).1

def library : Library :=
  table.toLibrary

end Reduct.Standard
