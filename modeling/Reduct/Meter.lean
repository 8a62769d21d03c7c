namespace Reduct

/-- A meter holds a balance and the instant at which time runs out, if there is one. -/
structure Meter where
  balance : Float
  deadline : Option Nat

namespace Meter

/-- A budget without a balance is unlimited, and so is one without a span of time. -/
def start (balance : Option Float) (milliseconds : Option Nat) (now : Nat) : Meter :=
  { balance := balance.getD (1.0 / 0.0)
    deadline := milliseconds.map (now + ·) }

/-- A run may go on while the balance is positive and the deadline lies ahead. -/
def ok (meter : Meter) (now : Nat) : Bool :=
  decide (0.0 < meter.balance) && meter.deadline.all (now < ·)

/-- A signed amount is added to the balance. -/
def transact (meter : Meter) (amount : Float) : Meter :=
  { meter with balance := meter.balance + amount }

end Meter

end Reduct
