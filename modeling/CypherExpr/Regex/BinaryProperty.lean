import CypherExpr.Regex.NamedSet

/-!
# Binary properties in patterns

The yes-or-no properties of Unicode that a pattern can name, with their names.  Most sets are
listed; the others are made of those by the definitions of the standard. -/

namespace CypherExpr.Regex

open Text (categoryRanges)
open Text.Property

namespace BinaryProperty

def unassigned : CharSet := .complement Text.assignedRanges

/-! ## Cases -/

def changesWhenTitlecased : CharSet :=
  (changesWhenUppercased ∪ .ofText "1C4 1C7 1CA 1F1") \
    .ofText "1C5 1C8 1CB 1F2 10D0-10FA 10FD-10FF 1F88-1F8F 1F98-1F9F 1FA8-1FAF 1FBC 1FCC 1FFC"

def changesWhenCasefolded : CharSet :=
  (changesWhenLowercased \ .ofText "13A0-13F5") ∪ .ofText
    "B5 DF 149 17F 345 3C2 3D0-3D1 3D5-3D6 3F0-3F1 3F5 587 13F8-13FD 1C80-1C88 1E9A-1E9B 1F80-1F87
    1F90-1F97 1FA0-1FA7 1FB2-1FB4 1FB7 1FC2-1FC4 1FC7 1FF2-1FF4 1FF7 AB70-ABBF FB00-FB06
    FB13-FB17"

def changesWhenCasemapped : CharSet :=
  changesWhenLowercased ∪ changesWhenUppercased ∪ changesWhenTitlecased

/-! ## Identifiers -/

/-- The characters of the syntax of patterns, which are in no identifier. -/
def patternCharacters : CharSet := patternSyntax ∪ patternWhiteSpace

def idStart : CharSet :=
  (categoryRanges "L" ∪ categoryRanges "Nl" ∪ otherIdStart) \ patternCharacters

def idContinue : CharSet :=
  (idStart ∪ categoryRanges "Mn" ∪ categoryRanges "Mc" ∪ categoryRanges "Nd" ∪ categoryRanges "Pc"
    ∪ otherIdContinue) \ patternCharacters

/-- Characters whose compatible forms are not in identifiers. -/
def unstableInIdentifiers : CharSet :=
  .ofText "37A 309B-309C FC5E-FC63 FDFA-FDFB FE70 FE72 FE74 FE76 FE78 FE7A FE7C FE7E"

def xidStart : CharSet :=
  (idStart \ unstableInIdentifiers) \ .ofText "E33 EB3 FF9E-FF9F"

def xidContinue : CharSet := idContinue \ unstableInIdentifiers

def idCompatMathContinue : CharSet :=
  idCompatMathStart ∪ .ofText "B2-B3 B9 2070 2074-207E 2080-208E"

/-! ## Graphemes -/

def defaultIgnorable : CharSet :=
  ((otherDefaultIgnorable ∪ categoryRanges "Cf" ∪ variationSelector) \ prependedConcatenationMark)
    \ .ofText "FFF9-FFFB 13430-1343F"

def graphemeBase : CharSet :=
  .complement (categoryRanges "C" ∪ unassigned ∪ categoryRanges "Zl" ∪ categoryRanges "Zp"
    ∪ graphemeExtend)

/-! ## Names -/

/-- The properties under their names and short names. -/
def table : List NamedSet := [
  ⟨["Alphabetic", "Alpha"], alphabetic⟩,
  ⟨["ASCII_Hex_Digit", "AHex"], asciiHexDigit⟩,
  ⟨["Bidi_Control", "Bidi_C"], bidiControl⟩,
  ⟨["Bidi_Mirrored", "Bidi_M"], bidiMirrored⟩,
  ⟨["Case_Ignorable", "CI"], caseIgnorable⟩,
  ⟨["Cased"], cased⟩,
  ⟨["Changes_When_Casefolded", "CWCF"], changesWhenCasefolded⟩,
  ⟨["Changes_When_Casemapped", "CWCM"], changesWhenCasemapped⟩,
  ⟨["Changes_When_Lowercased", "CWL"], changesWhenLowercased⟩,
  ⟨["Changes_When_Titlecased", "CWT"], changesWhenTitlecased⟩,
  ⟨["Changes_When_Uppercased", "CWU"], changesWhenUppercased⟩,
  ⟨["Dash"], dash⟩,
  ⟨["Default_Ignorable_Code_Point", "DI"], defaultIgnorable⟩,
  ⟨["Deprecated", "Dep"], deprecated⟩,
  ⟨["Diacritic", "Dia"], diacritic⟩,
  ⟨["Emoji"], emoji⟩,
  ⟨["Emoji_Component", "EComp"], emojiComponent⟩,
  ⟨["Emoji_Modifier", "EMod"], emojiModifier⟩,
  ⟨["Emoji_Modifier_Base", "EBase"], emojiModifierBase⟩,
  ⟨["Emoji_Presentation", "EPres"], emojiPresentation⟩,
  ⟨["Extended_Pictographic", "ExtPict"], extendedPictographic⟩,
  ⟨["Extender", "Ext"], extender⟩,
  ⟨["Grapheme_Base", "Gr_Base"], graphemeBase⟩,
  ⟨["Grapheme_Extend", "Gr_Ext"], graphemeExtend⟩,
  ⟨["Grapheme_Link", "Gr_Link"], graphemeLink⟩,
  ⟨["Hex_Digit", "Hex"], hexDigit⟩,
  ⟨["Hyphen"], hyphen⟩,
  ⟨["ID_Compat_Math_Continue"], idCompatMathContinue⟩,
  ⟨["ID_Compat_Math_Start"], idCompatMathStart⟩,
  ⟨["ID_Continue", "IDC"], idContinue⟩,
  ⟨["ID_Start", "IDS"], idStart⟩,
  ⟨["Ideographic", "Ideo"], ideographic⟩,
  ⟨["IDS_Binary_Operator", "IDSB"], idsBinaryOperator⟩,
  ⟨["IDS_Trinary_Operator", "IDST"], idsTrinaryOperator⟩,
  ⟨["IDS_Unary_Operator", "IDSU"], idsUnaryOperator⟩,
  ⟨["Join_Control", "Join_C"], joinControl⟩,
  ⟨["Logical_Order_Exception", "LOE"], logicalOrderException⟩,
  ⟨["Lowercase", "Lower"], lowercase⟩,
  ⟨["Math"], math⟩,
  ⟨["Modifier_Combining_Mark", "MCM"], modifierCombiningMark⟩,
  ⟨["Noncharacter_Code_Point", "NChar"], noncharacter⟩,
  ⟨["Other_Alphabetic", "OAlpha"], otherAlphabetic⟩,
  ⟨["Other_Default_Ignorable_Code_Point", "ODI"], otherDefaultIgnorable⟩,
  ⟨["Other_Grapheme_Extend", "OGr_Ext"], otherGraphemeExtend⟩,
  ⟨["Other_ID_Continue", "OIDC"], otherIdContinue⟩,
  ⟨["Other_ID_Start", "OIDS"], otherIdStart⟩,
  ⟨["Other_Lowercase", "OLower"], otherLowercase⟩,
  ⟨["Other_Math", "OMath"], otherMath⟩,
  ⟨["Other_Uppercase", "OUpper"], otherUppercase⟩,
  ⟨["Pattern_Syntax", "Pat_Syn"], patternSyntax⟩,
  ⟨["Pattern_White_Space", "Pat_WS"], patternWhiteSpace⟩,
  ⟨["Prepended_Concatenation_Mark", "PCM"], prependedConcatenationMark⟩,
  ⟨["Quotation_Mark", "QMark"], quotationMark⟩,
  ⟨["Radical"], radical⟩,
  ⟨["Regional_Indicator", "RI"], regionalIndicator⟩,
  ⟨["Sentence_Terminal", "STerm"], sentenceTerminal⟩,
  ⟨["Soft_Dotted", "SD"], softDotted⟩,
  ⟨["Terminal_Punctuation", "Term"], terminalPunctuation⟩,
  ⟨["Unified_Ideograph", "UIdeo"], unifiedIdeograph⟩,
  ⟨["Uppercase", "Upper"], uppercase⟩,
  ⟨["Variation_Selector", "VS"], variationSelector⟩,
  ⟨["White_Space", "WSpace", "space"], Text.blankRanges⟩,
  ⟨["XID_Continue", "XIDC"], xidContinue⟩,
  ⟨["XID_Start", "XIDS"], xidStart⟩]

end BinaryProperty

end CypherExpr.Regex
