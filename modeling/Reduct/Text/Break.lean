import Reduct.Text.Property

namespace Reduct.Text

namespace Cluster

/-- The characters that stay with the one before. -/
def extend : CharSet :=
  .join [Property.graphemeExtend, Property.emojiModifier]

/-- The characters that stay with the one after. -/
def prepend : CharSet :=
  .join [Property.prependedConcatenationMark,
    .ofLines ["d4e 111c2-111c3 113d1 1193f 11941 11a3a 11a84-11a89 11d46 11f02"]]

/-- The characters that stay with none. -/
def control : CharSet :=
  let invisible := CharSet.join [Category.lineSeparator, Category.paragraphSeparator,
    Category.control, Category.format, Category.unassigned.meet Property.defaultIgnorable]
  invisible.without
    (.join [extend, Property.prependedConcatenationMark, .ofLines ["a d 200c-200d"]])

/-- The marks with room that do not stay with the one before. -/
def looseMark : CharSet := .ofLines
  [ "102b-102c 1038 1062-1064 1067-106d 1083 1087-108c 108f 109a-109c 1a61 1a63-1a64 aa7b aa7d",
    "11720-11721" ]

/-- The marks with room that stay with the one before. -/
def spacingMark : CharSet :=
  .join [Category.spacingMark.without (.join [extend, looseMark]), .ofLines ["e33 eb3"]]

def leading : CharSet := .ofLines ["1100-115f a960-a97c"]

def vowel : CharSet := .ofLines ["1160-11a7 d7b0-d7c6 16d63 16d67-16d6a"]

def trailing : CharSet := .ofLines ["11a8-11ff d7cb-d7fb"]

/-- The syllable blocks without a trailing consonant. -/
def openBlock : CharSet :=
  .ofCodes ((List.range 399).map fun index => 0xAC00 + 28 * index)

/-- The syllable blocks with a trailing consonant. -/
def closedBlock : CharSet :=
  (CharSet.ofLines ["ac00-d7a3"]).without openBlock

def classes : List (List String × CharSet) :=
  [ (["CR"], .single '\r'), (["LF"], .single '\n'), (["Control", "CN"], control),
    (["Extend", "EX"], extend), (["ZWJ"], .ofLines ["200d"]),
    (["Regional_Indicator", "RI"], Property.regionalIndicator), (["Prepend", "PP"], prepend),
    (["SpacingMark", "SM"], spacingMark), (["L"], leading), (["V"], vowel), (["T"], trailing),
    (["LV"], openBlock), (["LVT"], closedBlock) ]

end Cluster

/-- The signs that stand before numbers. -/
def numberSign : CharSet :=
  Property.prependedConcatenationMark.without (.ofLines ["70f"])

/-- The digits and what stays with them. -/
def numeric : CharSet :=
  .join [Category.decimalNumber, numberSign, .ofLines ["66b"]]

namespace Word

/-- The characters that stay with the one before. -/
def extend : CharSet :=
  .join [Property.graphemeExtend, Category.spacingMark, Property.emojiModifier]

/-- The invisible characters inside words. -/
def format : CharSet :=
  Category.format.without (.join [extend, numberSign, .ofLines ["70f 200b-200d"]])

/-- The letters of one of the scripts that write words without blanks. -/
def katakana : CharSet := .ofLines
  [ "3031-3035 309b-309c 30a0-30fa 30fc-30ff 31f0-31ff 32d0-32fe 3300-3357 ff66-ff9d 1aff0-1aff3",
    "1aff5-1affb 1affd-1affe 1b000 1b120-1b122 1b155 1b164-1b167" ]

/-- The letters of the other of the scripts that write words without blanks. -/
def hiragana : CharSet := .ofLines ["3041-3096 309d-309f 1b001-1b11f 1b132 1b150-1b152 1f200"]

/-- The letters beside which a quote mark stays inside a word. -/
def hebrewLetter : CharSet := .ofLines
  ["5d0-5ea 5ef-5f2 fb1d fb1f-fb28 fb2a-fb36 fb38-fb3c fb3e fb40-fb41 fb43-fb44 fb46-fb4f"]

/-- The characters of scripts whose words are told apart by meaning. -/
def contextual : CharSet := .ofLines
  [ "e01-e3a e40-e4e e81-e82 e84 e86-e8a e8c-ea3 ea5 ea7-ebd ec0-ec4 ec6 ec8-ece edc-edf",
    "1000-103f 1050-108f 109a-109f 1780-17d3 17d7 17dc-17dd 1950-196d 1970-1974 1980-19ab",
    "19b0-19c9 19da 19de-19df 1a20-1a5e 1a60-1a7c 1aa0-1aad a9e0-a9ef a9fa-a9fe aa60-aac2",
    "aadb-aadf 11700-1171a 1171d-1172b 1173a-1173b 1173f-11746" ]

/-- The marks that stand beside letters like letters. -/
def letterLike : CharSet := .ofLines
  [ "2c2-2c5 2d2-2d7 2de-2df 2e5-2eb 2ed 2ef-2ff 55a-55c 55e 58a 5f3 70f a708-a716 a720-a721",
    "a789-a78a ab5b" ]

/-- The letters of the scripts that write words with blanks between them. -/
def letter : CharSet :=
  (CharSet.join [Property.alphabetic, letterLike]).without
    (.join [Property.ideographic, katakana, hiragana, hebrewLetter, contextual, extend])

def classes : List (List String × CharSet) :=
  [ (["CR"], .single '\r'), (["LF"], .single '\n'),
    (["Newline", "NL"], .ofLines ["b-c 85 2028-2029"]), (["Extend"], extend),
    (["ZWJ"], .ofLines ["200d"]), (["Format", "FO"], format),
    (["Regional_Indicator", "RI"], Property.regionalIndicator), (["Katakana", "KA"], katakana),
    (["Hebrew_Letter", "HL"], hebrewLetter), (["ALetter", "LE"], letter),
    (["Single_Quote", "SQ"], .ofLines ["27"]), (["Double_Quote", "DQ"], .ofLines ["22"]),
    (["MidNumLet", "MB"], .ofLines ["2e 2018-2019 2024 fe52 ff07 ff0e"]),
    (["MidLetter", "ML"], .ofLines ["3a b7 387 55f 5f4 2027 fe13 fe55 ff1a"]),
    (["MidNum", "MN"],
      .ofLines ["2c 3b 37e 589 60c-60d 66c 7f8 2044 fe10 fe14 fe50 fe54 ff0c ff1b"]),
    (["Numeric", "NU"], numeric),
    (["ExtendNumLet", "EX"], .join [Category.connectorPunctuation, .ofLines ["202f"]]),
    (["WSegSpace"], .ofLines ["20 1680 2000-2006 2008-200a 205f 3000"]) ]

end Word

namespace Sentence

/-- The characters that stay with the one before. -/
def extend : CharSet :=
  .join [Property.graphemeExtend, Category.spacingMark, .ofLines ["200d"]]

/-- The invisible characters inside sentences. -/
def format : CharSet :=
  Category.format.without (.join [extend, numberSign, .ofLines ["70f"]])

/-- The small letters of the scripts in which capital letters start a sentence. -/
def lower : CharSet :=
  Property.lowercase.without (.join [Property.graphemeExtend, .ofLines ["10d0-10fa 10fd-10ff"]])

/-- The capital letters that start a sentence. -/
def upper : CharSet :=
  (CharSet.join [Category.titlecaseLetter, Property.uppercase]).without
    (.ofLines ["1c90-1cba 1cbd-1cbf"])

/-- The letters of the other scripts. -/
def otherLetter : CharSet :=
  (CharSet.join [Property.alphabetic, .ofLines ["5f3 70f"]]).without
    (.join [lower, upper, extend])

/-- The marks that end abbreviations as well as sentences. -/
def ambiguousTerminal : CharSet := .ofLines ["2e 2024 fe52 ff0e"]

def terminal : CharSet :=
  Property.sentenceTerminal.without ambiguousTerminal

/-- The quotation marks whose side is not told by their category. -/
def quotation : CharSet := .ofLines
  [ "22 27 ab bb 2018-2019 201b-201d 201f 2039-203a 275b-2760 2e00-2e0d 2e1c-2e1d 2e20-2e21",
    "1f676-1f678" ]

/-- The brackets and quotes that may close a sentence. -/
def closing : CharSet :=
  .join [Category.openPunctuation, Category.closePunctuation, Category.initialPunctuation,
    Category.finalPunctuation, quotation]

def classes : List (List String × CharSet) :=
  [ (["CR"], .single '\r'), (["LF"], .single '\n'), (["Extend", "EX"], extend),
    (["Sep", "SE"], .ofLines ["85 2028-2029"]), (["Format", "FO"], format),
    (["Sp", "SP"], Property.whiteSpace.without (.ofLines ["a d 85 2028-2029"])),
    (["Lower", "LO"], lower), (["Upper", "UP"], upper), (["OLetter", "LE"], otherLetter),
    (["Numeric", "NU"], numeric), (["ATerm", "AT"], ambiguousTerminal),
    (["SContinue", "SC"],
      .ofLines
        [ "2c-2d 3a-3b 37e 55d 60c-60d 7f8 1802 1808 2013-2014 3001 fe10-fe11 fe13-fe14 fe31-fe32",
          "fe50-fe51 fe54-fe55 fe58 fe63 ff0c-ff0d ff1a-ff1b ff64" ]),
    (["STerm", "ST"], terminal), (["Close", "CL"], closing) ]

end Sentence

end Reduct.Text
