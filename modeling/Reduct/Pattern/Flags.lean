namespace Reduct.Pattern

structure Flags where
  caseless : Bool := false
  multiLine : Bool := false
  dotAll : Bool := false
  carriageReturns : Bool := false
  unicode : Bool := true
  verbose : Bool := false

namespace Flags

/-- The flags after one letter is set or cleared. -/
def set? (flags : Flags) (on : Bool) (letter : Char) : Option Flags :=
  match letter with
  | 'i' => some { flags with caseless := on }
  | 'm' => some { flags with multiLine := on }
  | 's' => some { flags with dotAll := on }
  | 'R' => some { flags with carriageReturns := on }
  | 'U' => some flags
  | 'u' => some { flags with unicode := on }
  | 'x' => some { flags with verbose := on }
  | _ => none

/-- Letters are set and those after a minus sign are cleared. No letter occurs twice, and the list
ends before a colon or a closing parenthesis. -/
def read? (flags : Flags) (on : Bool) (seen : List Char) : List Char → Option (Flags × List Char)
  | [] => none
  | ':' :: rest => if seen.head? = some '-' then none else some (flags, ':' :: rest)
  | ')' :: rest => if seen.head? = some '-' then none else some (flags, ')' :: rest)
  | letter :: rest =>
    if letter ∈ seen then none
    else if letter = '-' then read? flags false (letter :: seen) rest
    else (flags.set? on letter).bind fun changed => read? changed on (letter :: seen) rest

end Flags

end Reduct.Pattern
