import Reduct.Calendar
import Reduct.Standard.Argument

namespace Reduct.Standard

def clock : List Binding :=
  [ actsImpurely "time.now" .nothing fun _ _ => do
      pure (.string (Calendar.display (← get).now)),
    actsImpurely "time.timestamp" .nothing fun _ _ => do
      pure (.number (Float.ofNat (← get).now)) ]

end Reduct.Standard
