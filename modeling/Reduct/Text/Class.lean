import Reduct.Text.Blank
import Reduct.Text.Property

namespace Reduct.Text

def isDecimalDigit (char : Char) : Bool :=
  if char.toNat < 128 then isAsciiDigit char else Category.decimalNumber.contains char

/-- A letter, mark, digit or connector of any script. -/
def isWordChar (char : Char) : Bool :=
  if char.toNat < 128 then (digitValue? char).isSome || char == '_'
  else Property.word.contains char

end Reduct.Text
