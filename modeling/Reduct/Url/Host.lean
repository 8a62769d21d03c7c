import Reduct.Url.Domain

namespace Reduct.Url

/-- Schemes differ in how an address goes on after them. -/
inductive Scheme where
  | file
  | special
  | other
  deriving DecidableEq, Repr

/-- The kind of a scheme. -/
def Scheme.ofName (name : List Char) : Scheme :=
  match String.ofList name with
  | "file" => .file
  | "http" => .special
  | "https" => .special
  | "ws" => .special
  | "wss" => .special
  | "ftp" => .special
  | _ => .other

/-- Control characters and blanks of ASCII at both ends are dropped, and so are tabs and line ends
everywhere. -/
def cleaned (chars : List Char) : List Char :=
  let isEdge (char : Char) : Bool := char.toNat ≤ 32
  let trimmed := ((chars.dropWhile isEdge).reverse.dropWhile isEdge).reverse
  trimmed.filter fun char => !(char == '\t' || char == '\n' || char == '\r')

/-- A scheme starts with a letter and ends at a colon. -/
def scheme? (chars : List Char) : Option (Scheme × List Char) :=
  let isSchemeChar (char : Char) : Bool :=
    (Text.digitValue? char).isSome || char == '+' || char == '-' || char == '.'
  let name := chars.takeWhile isSchemeChar
  match name, chars.drop name.length with
  | first :: _, ':' :: rest =>
    if Text.isAsciiDigit first || (Text.digitValue? first).isNone then none
    else some (.ofName (name.map Text.lowerAscii), rest)
  | _, _ => none

/-- A slash, or a backslash where the scheme takes it for one. -/
def isSlash (scheme : Scheme) (char : Char) : Bool :=
  char == '/' || (scheme != .other && char == '\\')

/-- The characters that end the part of an address with the host. -/
def endsAuthority (scheme : Scheme) (char : Char) : Bool :=
  isSlash scheme char || char == '?' || char == '#'

/-- A host that other schemes take as it stands, with control characters and characters beyond
ASCII written as bytes. -/
def verbatimHost (chars : List Char) : Except Fault String :=
  let isInvalid (char : Char) : Bool :=
    char.toNat == 0 || " #/:<>?@[\\]^|".toList.contains char
  let hexDigit (value : Nat) : Char := Text.upperAscii (Nat.digitChar value)
  let written (byte : UInt8) : List Char :=
    let value := byte.toNat
    if value < 32 || 127 ≤ value then ['%', hexDigit (value / 16), hexDigit (value % 16)]
    else [Char.ofNat value]
  if chars.any isInvalid then .error .domainCharacter
  else .ok (String.ofList ((Text.utf8Bytes (String.ofList chars)).flatMap written))

/-- A host between brackets is an eight-part address. -/
def bracketedHost (chars : List Char) : Except Fault String :=
  if chars.getLast? = some ']' then
    (eightPartAddress (chars.drop 1).dropLast).map displayEight
  else .error .eightPartAddress

/-- A host is a numeric address or a domain name. -/
def specialHost (chars : List Char) : Except Fault String := do
  let domain ← asciiDomain (percentDecoded (Text.utf8Bytes (String.ofList chars)))
  if domain.isEmpty then .error .emptyHost
  else if endsInNumber domain then (fourPartAddress domain).map displayFour
  else .ok (String.ofList domain)

def readHost (scheme : Scheme) (chars : List Char) : Except Fault String :=
  if chars.head? = some '[' then bracketedHost chars
  else if scheme = .other then verbatimHost chars
  else specialHost chars

/-- The user information before the last at sign of an authority, if there is one, and the rest. -/
def splitUser (authority : List Char) : Option (List Char) × List Char :=
  let host := (authority.reverse.takeWhile (· != '@')).reverse
  if host.length = authority.length then (none, authority)
  else (some (authority.take (authority.length - host.length - 1)), host)

/-- The host ends at a colon that is not between brackets. -/
def splitNumber (inBrackets : Bool) : List Char → List Char × Option (List Char)
  | [] => ([], none)
  | char :: rest =>
    if char = ':' ∧ !inBrackets then ([], some rest)
    else
      let inside := if char = '[' then true else if char = ']' then false else inBrackets
      let (host, number) := splitNumber inside rest
      (char :: host, number)

/-- The number after a host has sixteen bits and ends at any slash. -/
def checkNumber (chars : List Char) : Except Fault Unit :=
  let digits := chars.takeWhile fun char => char != '\\'
  match Text.digits? 10 digits with
  | some number => if number < 65536 then .ok () else .error .serviceNumber
  | none => .error .serviceNumber

/-- The host of the part of an address after its two slashes. -/
def authorityHost (scheme : Scheme) (chars : List Char) : Except Fault (Option String) := do
  let authority := chars.takeWhile fun char => !endsAuthority scheme char
  let (user, afterUser) := splitUser authority
  let (host, number) := splitNumber false afterUser
  let named := user.any fun text => text.any (· != ':') || 1 < text.length
  if user = some [] ∧ afterUser.isEmpty ∧ authority.length < chars.length then .error .emptyHost
  else if host.isEmpty ∧ scheme = .special then .error .emptyHost
  else
    let text ← readHost scheme host
    if text.isEmpty ∧ number.isSome then .error .emptyHost
    else
      (number.map checkNumber).getD (.ok ())
      if text.isEmpty then if named then .error .emptyHost else .ok none
      else .ok (some text)

/-- A drive letter is a letter with a colon or a bar. -/
def isDriveLetter : List Char → Bool
  | [letter, mark] =>
    (Text.digitValue? letter).isSome && !Text.isAsciiDigit letter && (mark == ':' || mark == '|')
  | _ => false

/-- Whether a path puts a drive letter in the first place; dots move through it. -/
def startsWithDrive : Nat → List (List Char) → Bool
  | _, [] => false
  | depth, segment :: rest =>
    match (String.ofList (segment.map Text.lowerAscii)).replace "%2e" "." with
    | "." => startsWithDrive depth rest
    | ".." => startsWithDrive (depth - 1) rest
    | _ => (depth = 0 && isDriveLetter segment) || startsWithDrive (depth + 1) rest

/-- The host of a file: it may be missing, and this machine is no host. -/
def fileHost (chars : List Char) : Except Fault (Option String) :=
  match chars with
  | first :: second :: rest =>
    if isSlash .file first && isSlash .file second then
      let host := rest.takeWhile fun char => !endsAuthority .file char
      let path := (rest.drop host.length).takeWhile fun char => char != '?' && char != '#'
      if host.isEmpty || isDriveLetter host then .ok none
      else do
        let text ← readHost .file host
        let slashed := path.map fun char => if char = '\\' then '/' else char
        let segments := (Text.cut '/' slashed).drop 1
        if text = "localhost" ∨ startsWithDrive 0 segments then .ok none
        else .ok (some text)
    else .ok none
  | _ => .ok none

def host (text : String) : Except Fault (Option String) :=
  match scheme? (cleaned text.toList) with
  | none => .error .withoutScheme
  | some (.file, rest) => fileHost rest
  | some (.special, rest) => authorityHost .special (rest.dropWhile (isSlash .special))
  | some (.other, '/' :: '/' :: rest) => authorityHost .other rest
  | some (.other, _) => .ok none

end Reduct.Url
