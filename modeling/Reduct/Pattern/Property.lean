import Reduct.Text.Age
import Reduct.Text.Break
import Reduct.Text.Case
import Reduct.Text.Script

namespace Reduct.Pattern

open Text

/-- The properties that a character has or lacks, with their names. -/
def binaryProperties : List (List String × CharSet) :=
  [ (["ASCII_Hex_Digit", "AHex"], Property.asciiHexDigit),
    (["Alphabetic", "Alpha"], Property.alphabetic),
    (["Bidi_Control", "Bidi_C"], Property.bidiControl),
    (["Bidi_Mirrored", "Bidi_M"], Property.bidiMirrored),
    (["Case_Ignorable", "CI"], Property.caseIgnorable),
    (["Cased"], Property.cased),
    (["Changes_When_Casefolded", "CWCF"], changedByComparison),
    (["Changes_When_Casemapped", "CWCM"], changedByCase),
    (["Changes_When_Lowercased", "CWL"], changedBySmall),
    (["Changes_When_Titlecased", "CWT"], changedByTitle),
    (["Changes_When_Uppercased", "CWU"], changedByCapital),
    (["Dash"], Property.dash),
    (["Default_Ignorable_Code_Point", "DI"], Property.defaultIgnorable),
    (["Deprecated", "Dep"], Property.deprecated),
    (["Diacritic", "Dia"], Property.diacritic),
    (["Emoji"], Property.emoji),
    (["Emoji_Component", "EComp"], Property.emojiComponent),
    (["Emoji_Modifier", "EMod"], Property.emojiModifier),
    (["Emoji_Modifier_Base", "EBase"], Property.emojiModifierBase),
    (["Emoji_Presentation", "EPres"], Property.emojiPresentation),
    (["Extended_Pictographic", "ExtPict"], Property.extendedPictographic),
    (["Extender", "Ext"], Property.extender),
    (["Grapheme_Base", "Gr_Base"], Property.graphemeBase),
    (["Grapheme_Extend", "Gr_Ext"], Property.graphemeExtend),
    (["Grapheme_Link", "Gr_Link"], Property.graphemeLink),
    (["Hex_Digit", "Hex"], Property.hexDigit),
    (["Hyphen"], Property.hyphen),
    (["IDS_Binary_Operator", "IDSB"], Property.idsBinaryOperator),
    (["IDS_Trinary_Operator", "IDST"], Property.idsTrinaryOperator),
    (["IDS_Unary_Operator", "IDSU"], Property.idsUnaryOperator),
    (["ID_Compat_Math_Continue"], Property.compatMathContinue),
    (["ID_Compat_Math_Start"], Property.compatMathStart),
    (["ID_Continue", "IDC"], Property.idContinue),
    (["ID_Start", "IDS"], Property.idStart),
    (["Ideographic", "Ideo"], Property.ideographic),
    (["Join_Control", "Join_C"], Property.joinControl),
    (["Logical_Order_Exception", "LOE"], Property.logicalOrderException),
    (["Lowercase", "Lower"], Property.lowercase),
    (["Math"], Property.math),
    (["Modifier_Combining_Mark", "MCM"], Property.modifierCombiningMark),
    (["Noncharacter_Code_Point", "NChar"], Property.noncharacter),
    (["Other_Alphabetic", "OAlpha"], Property.otherAlphabetic),
    (["Other_Default_Ignorable_Code_Point", "ODI"], Property.otherDefaultIgnorable),
    (["Other_Grapheme_Extend", "OGr_Ext"], Property.otherGraphemeExtend),
    (["Other_ID_Continue", "OIDC"], Property.otherIdContinue),
    (["Other_ID_Start", "OIDS"], Property.otherIdStart),
    (["Other_Lowercase", "OLower"], Property.otherLowercase),
    (["Other_Math", "OMath"], Property.otherMath),
    (["Other_Uppercase", "OUpper"], Property.otherUppercase),
    (["Pattern_Syntax", "Pat_Syn"], Property.patternSyntax),
    (["Pattern_White_Space", "Pat_WS"], Property.patternWhiteSpace),
    (["Prepended_Concatenation_Mark", "PCM"], Property.prependedConcatenationMark),
    (["Quotation_Mark", "QMark"], Property.quotationMark),
    (["Radical"], Property.radical),
    (["Regional_Indicator", "RI"], Property.regionalIndicator),
    (["Sentence_Terminal", "STerm"], Property.sentenceTerminal),
    (["Soft_Dotted", "SD"], Property.softDotted),
    (["Terminal_Punctuation", "Term"], Property.terminalPunctuation),
    (["Unified_Ideograph", "UIdeo"], Property.unifiedIdeograph),
    (["Uppercase", "Upper"], Property.uppercase),
    (["Variation_Selector", "VS"], Property.variationSelector),
    (["White_Space", "WSpace", "space"], Property.whiteSpace),
    (["XID_Continue", "XIDC"], Property.xidContinue),
    (["XID_Start", "XIDS"], Property.xidStart) ]

/-- The general categories and the groups of them, with their names. -/
def categories : List (List String × CharSet) :=
  [ (["Any"], .full), (["Assigned"], Category.assigned), (["ASCII"], .ascii),
    (["Cased_Letter", "LC"], Category.casedLetter),
    (["Close_Punctuation", "Pe"], Category.closePunctuation),
    (["Connector_Punctuation", "Pc"], Category.connectorPunctuation),
    (["Control", "Cc", "cntrl"], Category.control),
    (["Currency_Symbol", "Sc"], Category.currencySymbol),
    (["Dash_Punctuation", "Pd"], Category.dashPunctuation),
    (["Decimal_Number", "Nd", "digit"], Category.decimalNumber),
    (["Enclosing_Mark", "Me"], Category.enclosingMark),
    (["Final_Punctuation", "Pf"], Category.finalPunctuation),
    (["Format", "Cf"], Category.format),
    (["Initial_Punctuation", "Pi"], Category.initialPunctuation),
    (["Letter", "L"], Category.letter),
    (["Letter_Number", "Nl"], Category.letterNumber),
    (["Line_Separator", "Zl"], Category.lineSeparator),
    (["Lowercase_Letter", "Ll"], Category.lowercaseLetter),
    (["Mark", "M", "Combining_Mark"], Category.mark),
    (["Math_Symbol", "Sm"], Category.mathSymbol),
    (["Modifier_Letter", "Lm"], Category.modifierLetter),
    (["Modifier_Symbol", "Sk"], Category.modifierSymbol),
    (["Nonspacing_Mark", "Mn"], Category.nonspacingMark),
    (["Number", "N"], Category.number),
    (["Open_Punctuation", "Ps"], Category.openPunctuation),
    (["Other", "C"], Category.other),
    (["Other_Letter", "Lo"], Category.otherLetter),
    (["Other_Number", "No"], Category.otherNumber),
    (["Other_Punctuation", "Po"], Category.otherPunctuation),
    (["Other_Symbol", "So"], Category.otherSymbol),
    (["Paragraph_Separator", "Zp"], Category.paragraphSeparator),
    (["Private_Use", "Co"], Category.privateUse),
    (["Punctuation", "P", "punct"], Category.punctuation),
    (["Separator", "Z"], Category.separator),
    (["Space_Separator", "Zs"], Category.spaceSeparator),
    (["Spacing_Mark", "Mc"], Category.spacingMark),
    (["Symbol", "S"], Category.symbol),
    (["Titlecase_Letter", "Lt"], Category.titlecaseLetter),
    (["Unassigned", "Cn"], Category.unassigned),
    (["Uppercase_Letter", "Lu"], Category.uppercaseLetter) ]

/-- Names are compared without case, spaces and joining marks and without a leading "is", which
stays before a lone "c". -/
def plainName (name : List Char) : List Char :=
  let isKept (char : Char) : Bool :=
    char.toNat < 128 && char != ' ' && char != '_' && char != '-'
  let plain (chars : List Char) : List Char := (chars.filter isKept).map lowerAscii
  match name.map lowerAscii with
  | 'i' :: 's' :: rest =>
    match plain rest with
    | ['c'] => ['i', 's', 'c']
    | chars => chars
  | chars => plain chars

/-- The entry of a table that has a name. -/
def entryNamed? {α : Type} (table : List (List String × α)) (name : List Char) : Option α :=
  (table.find? fun (names, _) => names.any fun known =>
    plainName known.toList == plainName name).map Prod.snd

def script? (name : List Char) : Option Script :=
  entryNamed? (Script.all.map fun script => (script.name :: script.codes, script)) name

/-- The characters of the version that has a name. -/
def age? (name : List Char) : Option CharSet :=
  let named (age : Age) : List String :=
    [s!"{age.major}.{age.minor}", s!"V{age.major}_{age.minor}"]
  (entryNamed? (Age.all.map fun age => (named age, age)) name).map fun age =>
    Age.known age.major age.minor

inductive ValueKind where
  | category
  | script
  | scriptExtensions
  | age
  | cluster
  | word
  | sentence
  deriving DecidableEq, Repr

/-- The kinds of properties that take a value, with their names. -/
def valueKinds : List (List String × ValueKind) :=
  [ (["General_Category", "gc"], .category), (["Script", "sc"], .script),
    (["Script_Extensions", "scx"], .scriptExtensions), (["Age"], .age),
    (["Grapheme_Cluster_Break", "GCB"], .cluster), (["Word_Break", "WB"], .word),
    (["Sentence_Break", "SB"], .sentence) ]

/-- The set of the characters for which a property has a value. -/
def valued? (name value : List Char) : Option CharSet :=
  match entryNamed? valueKinds name with
  | some .category => entryNamed? categories value
  | some .script => (script? value).map Script.members
  | some .scriptExtensions => (script? value).map Script.users
  | some .age => age? value
  | some .cluster => entryNamed? Cluster.classes value
  | some .word => entryNamed? Word.classes value
  | some .sentence => entryNamed? Sentence.classes value
  | none => none

/-- The set of a lone name: a property, a general category or a script. -/
def named? (name : List Char) : Option CharSet :=
  match entryNamed? binaryProperties name with
  | some set => some set
  | none =>
    match entryNamed? categories name with
    | some set => some set
    | none => (script? name).map Script.members

end Reduct.Pattern
