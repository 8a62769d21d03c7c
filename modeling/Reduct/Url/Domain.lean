import Reduct.Text.Punycode
import Reduct.Text.Utf8
import Reduct.Url.Address
import Reduct.Url.Direction
import Reduct.Url.Joining
import Reduct.Url.Mapping

namespace Reduct.Url

/-- A percent sign with two hexadecimal digits is a byte. -/
def percentDecoded : List UInt8 → List UInt8
  | 37 :: first :: second :: rest =>
    match Text.digit? 16 (Char.ofNat first.toNat), Text.digit? 16 (Char.ofNat second.toNat) with
    | some high, some low => UInt8.ofNat (16 * high + low) :: percentDecoded rest
    | _, _ => 37 :: percentDecoded (first :: second :: rest)
  | byte :: rest => byte :: percentDecoded rest
  | [] => []

/-- The ASCII characters that a domain name must not hold. -/
def isForbidden (char : Char) : Bool :=
  char.toNat < 32 || char.toNat == 127 || " %#/:<>?@[\\]^|".toList.contains char

/-- The mark of a label that is not written in its own script. -/
def encodedMark : List Char := "xn--".toList

/-- A label in its own script and in ASCII. -/
structure Label where
  own : List Char
  ascii : List Char

/-- Labels in their own script are encoded up to this length. -/
def maximumOwnLength : Nat := 1000

/-- Marked labels are decoded up to this length. -/
def maximumEncodedLength : Nat := 2000

/-- A marked label stands for one that needs the mark and is in normal form. -/
def decodedLabel? (label : List Char) : Option Label :=
  let encoded := label.drop encodedMark.length
  if maximumEncodedLength < encoded.length then none
  else
    (Text.Punycode.decode? encoded).bind fun own =>
      if own.all (·.toNat < 128) || encodedMark.isPrefixOf own || !own.all isPlain
          || Text.normalized own != own then none
      else some ⟨own, label⟩

/-- A label that is not marked is encoded when it needs the mark. -/
def encodedLabel? (label : List Char) : Option Label :=
  if label.all (·.toNat < 128) then some ⟨label, label⟩
  else if maximumOwnLength < label.length then none
  else some ⟨label, encodedMark ++ Text.Punycode.encode label⟩

/-- Whether a label in its own script starts with no mark and holds joiners only where they are
needed. -/
def isWellFormed (own : List Char) : Bool :=
  !own.head?.any Text.Category.mark.contains && joinersFit [] own

/-- A label of a domain name in normal form. -/
def label? (chars : List Char) : Option Label :=
  let label := if encodedMark.isPrefixOf chars then decodedLabel? chars else encodedLabel? chars
  label.filter fun found => isWellFormed found.own

def asciiDomain (bytes : List UInt8) : Except Fault (List Char) :=
  let labels : Option (List Label) := do
    let text ← (Text.ofUtf8 bytes).toOption
    let chars ← mappedText? text.toList
    if chars.any isForbidden then none else (Text.cut '.' chars).mapM label?
  match labels.filter fun found => directionsAgree (found.map Label.own) with
  | some found => .ok (List.intercalate ['.'] (found.map Label.ascii))
  | none => .error .internationalName

end Reduct.Url
