import Reduct.Node.Wire
import Reduct.Signature

namespace Reduct

/-- The ways in which settings are refused. -/
inductive SettingsFault where
  | json (fault : Json.Fault)
  | balanceNotNumber
  | amountNotFinite

def SettingsFault.message : SettingsFault → String
  | .json fault => fault.message
  | .balanceNotNumber => "balance must be a number"
  | .amountNotFinite => "transaction amounts must be finite"

/-- The causes for which a program fails. -/
inductive Error where
  | lex (line column : Nat) (snippet : String)
  | mismatchedOpen (found expected : Nat)
  | mismatchedClose (found expected : Nat)
  | invalidInlineJson (line column : Nat) (fault : Json.Fault)
  | invalidNumber (literal : String) (line column : Nat)
  | badInput
  | outOfGas (node : Node)
  | signature (name : String) (mismatch : Signature.Mismatch)
  | impurity (name : String)
  | missingDefinition (what : String)
  | typeError (expected got : String)
  | invalidPattern
  | thrown (message : String)
  | assertionFailed (message : String)
  | settings (fault : SettingsFault)

inductive Severity where
  | fatal
  | recoverable
  | warning
  deriving DecidableEq, Repr

namespace Error

/-- A node of one kind stands where another kind was expected. -/
def mistyped (expected : String) (got : Node) : Error :=
  .typeError expected got.typeName

def message : Error → String
  | .lex line column snippet =>
    s!"Lex error at line {line}, column {column}: unexpected input near `{snippet}`"
  | .mismatchedOpen found expected =>
    s!"Missing closing parentheses! Found {found} parentheses, but expected {expected}"
  | .mismatchedClose found expected =>
    s!"Too many closing parentheses! Found {found} parentheses, but expected {expected}"
  | .invalidInlineJson line column fault =>
    s!"Invalid JSON at line {line}, character {column}: {fault.message}"
  | .invalidNumber literal line column =>
    s!"Invalid number `{literal}` at line {line}, character {column}"
  | .badInput => "Bad input: cannot evaluate an empty program"
  | .outOfGas node => s!"Out of gas while reducing {node.render}"
  | .signature name mismatch => s!"Signature error in `{name}`: {mismatch.message name}"
  | .impurity name => s!"Impure function `{name}` is not allowed"
  | .missingDefinition what => s!"Missing definition: {what}"
  | .typeError expected got => s!"Type error: expected {expected}, got {got}"
  | .invalidPattern => "Type error: expected regular expression"
  | .thrown message => message
  | .assertionFailed message => s!"Assertion failed: {message}"
  | .settings fault => s!"Configuration error: {fault.message}"

/-- Malformed programs and failed assertions are fatal, and a wrong kind of value is a warning. -/
def severity : Error → Severity
  | .lex _ _ _ => .fatal
  | .mismatchedOpen _ _ => .fatal
  | .mismatchedClose _ _ => .fatal
  | .invalidInlineJson _ _ _ => .fatal
  | .invalidNumber _ _ _ => .fatal
  | .badInput => .fatal
  | .settings _ => .fatal
  | .assertionFailed _ => .fatal
  | .typeError _ _ => .warning
  | .invalidPattern => .warning
  | _ => .recoverable

end Error

end Reduct
