import Reduct.Digest
import Reduct.Node.Text
import Reduct.Pattern.Parse
import Reduct.Standard.Argument
import Reduct.Text.Base64
import Reduct.Text.Case
import Reduct.Text.Split
import Reduct.Url.Host

namespace Reduct.Standard

def oneText : Signature := .ofTags ["string"]

def twoTexts : Signature := .ofTags ["string", "string"]

/-- A function from the text of an argument to a text. -/
def textual (name : String) (operation : String → String) : Binding :=
  yields name oneText fun arguments => .string (operation (argument arguments 0).toText)

def decodeBase64 (arguments : List Node) : Except Error Node := do
  let encoded ← textArgument arguments 0
  match Text.Base64.decode (Text.utf8Bytes encoded) with
  | .error fault => throw (.typeError "base64 text" fault.message)
  | .ok bytes =>
    match Text.ofUtf8 bytes with
    | .error fault => throw (.typeError "UTF-8 text" fault.message)
    | .ok text => pure (.string text)

/-- Where the pattern of the first argument starts to match in the text of the second. -/
def matchOffset (arguments : List Node) : Except Error (Option Nat) := do
  match Pattern.parse? (← textArgument arguments 0) with
  | some pattern => pure (pattern.offset? (argument arguments 1).toText)
  | none => throw .invalidPattern

/-- The host of an address, and null when it has none. -/
def hostOf (arguments : List Node) : Except Error Node := do
  match Url.host (← textArgument arguments 0) with
  | .ok (some host) => pure (.string host)
  | .ok none => pure .null
  | .error fault => throw (.typeError "URL" fault.message)

def words : List Binding :=
  [ yields "str.concat" .any fun arguments => .string (String.join (arguments.map Node.toText)),
    textual "str.uppercase" Text.toCapital,
    textual "str.lowercase" Text.toSmall,
    textual "str.trim" fun text => String.ofList (Text.trim text.toList),
    textual "str.capitalize" Text.capitalize,
    yields "str.length" oneText fun arguments =>
      .number (Float.ofNat (argument arguments 0).toText.length),
    yields "str.split" twoTexts fun arguments =>
      .quotedList ((Text.split (argument arguments 1).toText (argument arguments 0).toText).map
        .string),
    textual "str.encode64" fun text => Text.Base64.encode (Text.utf8Bytes text),
    computes "str.decode64" oneText decodeBase64,
    computes "regexp.exec" twoTexts fun arguments => do
      pure (((← matchOffset arguments).map fun offset => .number (Float.ofNat offset)).getD .null),
    computes "regexp.test" twoTexts fun arguments => do
      pure (.bool (← matchOffset arguments).isSome),
    computes "uri.host" oneText hostOf ]

def digests : List Binding :=
  [textual "crypto.sha256" fun text => Digest.hexadecimal (Digest.sha256 (Text.utf8Bytes text))]

end Reduct.Standard
