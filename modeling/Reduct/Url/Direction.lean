import Reduct.Text.Category

namespace Reduct.Url

open Text

inductive Direction where
  | leftToRight
  | rightToLeft
  | arabicLetter
  | arabicNumber
  | europeanNumber
  | separator
  | neutral
  | mark
  deriving DecidableEq, Repr

namespace Direction

/-- The marks without room that are written from left to right. -/
def straightMark : CharSet := .ofLines
  [ "cbf cc6 11a07-11a08 11c3f" ]

/-- The letters and signs that are written from right to left. -/
def rightToLeftChars : CharSet := .ofLines
  [ "5be 5c0 5c3 5c6 5d0-5f4 7c0-7ea 7f4-7f5 7fa 7fe-815 81a 824 828 830-858 85e 10800-1091b",
    "10920-10a00 10a10-10a35 10a40-10ae4 10aeb-10b35 10b40-10cff 10d4a-10d4f 10d6e-10d8f",
    "10e80-10ea9 10ead-10eb1 10f00-10f27 10f70-10f81 10f86-10ff6 1e800-1e8cf 1e922-1e943",
    "1e94b-1e95f" ]

/-- The letters and signs of the scripts with numbers of their own direction. -/
def arabicLetterChars : CharSet := .ofLines
  [ "608 60b 60d 61b-64a 66d-66f 671-6d5 6e5-6e6 6ee-6ef 6fa-710 712-72f 74d-7a5 7b1 860-88e",
    "8a0-8c9 fbb2-fbc2 fe73 10d00-10d23 10ec2-10ec4 10f30-10f45 10f51-10f59 1ec71-1ed3d" ]

/-- The digits of those scripts. -/
def arabicNumberChars : CharSet := .ofLines
  [ "660-669 66b-66c 10d30-10d39 10d40-10d49 10e60-10e7e" ]

/-- The digits that all scripts share. -/
def europeanNumberChars : CharSet := .ofLines
  [ "30-39 6f0-6f9 102e1-102fb" ]

/-- The signs that stand between and beside digits. -/
def separatorChars : CharSet := .ofLines
  [ "23-25 2b-2f 3a a2-a5 b0-b1 58f 609-60a 60c 66a 9f2-9f3 9fb af1 bf9 e3f 17db 2030-2032 2044",
    "20a0-20a7 20a9-20c0 212e 2212-2213 a838-a839 11fdd-11fe0 1e2ff" ]

def neutralChars : CharSet := .ofLines
  [ "21-22 26-2a 3b-60 7b-7e a1 a6-ae b6-d7 f7 2b9-2ba 2c2-2cf 2d2-2ed 2ef-2ff 375 3f6 58a-58e",
    "606-607 60e-60f 6de 6e9 7f6-7f9 bf3-bf8 bfa c78-c7e f3a-f3d 1390-1399 1400 169b-169c",
    "17f0-180a 1940-1945 19de-19ff 200c-2027 2035-2043 2045-205e 2104-2129 213a-214d 218a-2211",
    "2214-2335 237b-2394 2396-26ab 26ad-27ff 2900-2bff 2ce5-2cea 2cf9-2cff 2e00-3004 3008-3020",
    "3030 3037 303d-303f 30a0 30fb 31c0-31e5 4dc0-4dff a490-a4c6 a60d-a60f a673 a67e-a67f",
    "a700-a721 a788 a828-a82b a874-a877 ab6a-ab6b fd3e-fdff fe45-fe46 10101 10140-1018c",
    "10190-101a0 1091f 10b39-10b3f 11052-11065 11660-1166c 11fd5-11fdc 11fe1-11ff1 16fe2",
    "1cc00-1ceb3 1d1e9-1d241 1d245 1d300-1d356 1eef0-1f12f 1f16d-1f16f 1f1ad 1f260-1fbef" ]

def ofChar (char : Char) : Direction :=
  let isMark := Category.nonspacingMark.contains char || Category.enclosingMark.contains char
  if isMark && !straightMark.contains char then .mark
  else if rightToLeftChars.contains char then .rightToLeft
  else if arabicLetterChars.contains char then .arabicLetter
  else if arabicNumberChars.contains char then .arabicNumber
  else if europeanNumberChars.contains char then .europeanNumber
  else if separatorChars.contains char then .separator
  else if neutralChars.contains char then .neutral
  else .leftToRight

/-- Whether a direction makes a domain name run from right to left somewhere. -/
def turns : Direction → Bool
  | .rightToLeft => true
  | .arabicLetter => true
  | .arabicNumber => true
  | _ => false

end Direction

/-- The directions of a label without the marks at its end. -/
def trimmedDirections (directions : List Direction) : List Direction :=
  (directions.reverse.dropWhile (· == .mark)).reverse

/-- Whether directions stand in a label from left to right: letters, shared digits and signs, with a
letter or a digit at the end. -/
def readsToRight (directions : List Direction) : Bool :=
  directions.all (fun direction => !direction.turns) &&
    ((trimmedDirections directions).getLast?.any fun last =>
      last == .leftToRight || last == .europeanNumber)

/-- Whether directions stand in a label from right to left: no letters of the other direction,
digits of one kind, and a letter or a digit at the end. -/
def readsToLeft (directions : List Direction) : Bool :=
  directions.all (· != .leftToRight) &&
    !(directions.contains .arabicNumber && directions.contains .europeanNumber) &&
    ((trimmedDirections directions).getLast?.any fun last =>
      last.turns || last == .europeanNumber)

/-- Whether a label reads in one direction. -/
def readsOneWay (label : List Char) : Bool :=
  let directions := label.map Direction.ofChar
  match directions with
  | [] => true
  | .leftToRight :: _ => readsToRight directions
  | .rightToLeft :: _ => readsToLeft directions
  | .arabicLetter :: _ => readsToLeft directions
  | _ => false

/-- Where some label turns the direction, every label reads in one direction. -/
def directionsAgree (labels : List (List Char)) : Bool :=
  let turning := labels.any fun label => label.any fun char => (Direction.ofChar char).turns
  !turning || labels.all readsOneWay

end Reduct.Url
