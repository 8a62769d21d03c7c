import Reduct.Json
import Reduct.Number.Layout

namespace Reduct.Json

/-- Quotes, backslashes and control characters are escaped. -/
def escape (char : Char) : List Char :=
  if char = '"' then ['\\', '"']
  else if char = '\\' then ['\\', '\\']
  else if char = '\x08' then ['\\', 'b']
  else if char = '\x0c' then ['\\', 'f']
  else if char = '\n' then ['\\', 'n']
  else if char = '\r' then ['\\', 'r']
  else if char = '\t' then ['\\', 't']
  else if char.toNat < 32 then
    ['\\', 'u', '0', '0', Nat.digitChar (char.toNat / 16), Nat.digitChar (char.toNat % 16)]
  else [char]

/-- A string stands between double quotes. -/
def stringChars (text : String) : List Char :=
  '"' :: text.toList.flatMap escape ++ ['"']

/-- A double has a point or an exponent, and one that is not finite is null. -/
def floatChars (value : Float) : List Char :=
  ((Number.Layout.wire.write? value).getD "null").toList

/-- An integer has no point. -/
def Number.chars : Json.Number → List Char
  | .integer value => (toString value).toList
  | .real value => floatChars value

mutual

def chars : Json → List Char
  | .null => "null".toList
  | .bool value => (if value then "true" else "false").toList
  | .number value => value.chars
  | .string text => stringChars text
  | .array items => '[' :: itemChars items
  | .object members => '\x7b' :: memberChars members

def itemChars : List Json → List Char
  | [] => [']']
  | item :: rest => chars item ++ restItemChars rest

/-- Later items follow commas. -/
def restItemChars : List Json → List Char
  | [] => [']']
  | item :: rest => ',' :: chars item ++ restItemChars rest

def memberChars : List (String × Json) → List Char
  | [] => ['\x7d']
  | (key, value) :: rest => stringChars key ++ ':' :: chars value ++ restMemberChars rest

/-- Later members follow commas. -/
def restMemberChars : List (String × Json) → List Char
  | [] => ['\x7d']
  | (key, value) :: rest => ',' :: stringChars key ++ ':' :: chars value ++ restMemberChars rest

end

def render (value : Json) : String :=
  String.ofList value.chars

end Reduct.Json
