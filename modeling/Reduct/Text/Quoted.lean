import Reduct.Text.Property

namespace Reduct.Text

/-- The characters that are not printed as they are: controls, blanks, combining marks and
unassigned ones. -/
def invisible : CharSet :=
  .join [Category.other, Category.separator.without (.single ' '), Property.graphemeExtend]

/-- A code point is written in hexadecimal between braces. -/
def codePointEscape (char : Char) : List Char :=
  '\\' :: 'u' :: '\x7b' :: Nat.toDigits 16 char.toNat ++ ['\x7d']

def quotedChar (char : Char) : List Char :=
  if char = '\x00' then ['\\', '0']
  else if char = '\t' then ['\\', 't']
  else if char = '\r' then ['\\', 'r']
  else if char = '\n' then ['\\', 'n']
  else if char = '"' then ['\\', '"']
  else if char = '\\' then ['\\', '\\']
  else if 32 ≤ char.toNat ∧ char.toNat < 127 then [char]
  else if invisible.contains char then codePointEscape char
  else [char]

def quoted (text : String) : String :=
  String.ofList ('"' :: text.toList.flatMap quotedChar ++ ['"'])

end Reduct.Text
