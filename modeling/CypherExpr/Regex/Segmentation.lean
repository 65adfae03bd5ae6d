import CypherExpr.Regex.BinaryProperty
import CypherExpr.Text.Script

/-!
# Classes of characters for the segmentation of text

The classes by which texts are divided into graphemes, words and sentences.  Each division puts a
character into one class at most.
-/

namespace CypherExpr.Regex.Segmentation

open Text (categoryRanges)
open Text.Property
open BinaryProperty

def carriageReturn : CharSet := .singleton '\r'

def lineFeed : CharSet := .singleton '\n'

/-- The zero-width joiner. -/
def joiner : CharSet := .ofText "200D"

def scriptRanges (name : String) : CharSet :=
  .ofText ((Text.scriptTable.lookup name).getD "")

/-! ## Graphemes -/

def graphemeExtension : CharSet := graphemeExtend ∪ emojiModifier

def graphemeControl : CharSet :=
  (categoryRanges "Zl" ∪ categoryRanges "Zp" ∪ categoryRanges "Cc" ∪ categoryRanges "Cf"
    ∪ (unassigned ∩ defaultIgnorable))
    \ (graphemeExtend ∪ prependedConcatenationMark ∪ carriageReturn ∪ lineFeed ∪ joiner)

/-- Spacing marks with two vowels of Thai and Lao, but without the marks of some scripts that stand
for themselves. -/
def graphemeSpacingMark : CharSet :=
  (categoryRanges "Mc" ∪ .ofText "E33 EB3") \ (graphemeExtension ∪ .ofText
    "102B-102C 1038 1062-1064 1067-106D 1083 1087-108C 108F 109A-109C 1A61 1A63-1A64 AA7B AA7D
    11720-11721")

/-- Marks before digits, and consonants that are written before the one they follow. -/
def graphemePrepend : CharSet :=
  prependedConcatenationMark ∪ .ofText
    "D4E 111C2-111C3 113D1 1193F 11941 11A3A 11A84-11A89 11D46 11F02"

/-- The syllables of Hangul, of which every 28th has no final consonant. -/
def hangulSyllables : CharSet := .ofText "AC00-D7A3"

def hangulOpenSyllables : CharSet :=
  .ofPairs ((List.range 399).map fun index => (0xAC00 + 28 * index, 0xAC00 + 28 * index))

def graphemeClasses : List NamedSet := [
  ⟨["Control", "CN"], graphemeControl⟩,
  ⟨["CR"], carriageReturn⟩,
  ⟨["Extend", "EX"], graphemeExtension⟩,
  ⟨["L"], .ofText "1100-115F A960-A97C"⟩,
  ⟨["LF"], lineFeed⟩,
  ⟨["LV"], hangulOpenSyllables⟩,
  ⟨["LVT"], hangulSyllables \ hangulOpenSyllables⟩,
  ⟨["Prepend", "PP"], graphemePrepend⟩,
  ⟨["Regional_Indicator", "RI"], regionalIndicator⟩,
  ⟨["SpacingMark", "SM"], graphemeSpacingMark⟩,
  ⟨["T"], .ofText "11A8-11FF D7CB-D7FB"⟩,
  ⟨["V"], .ofText "1160-11A7 D7B0-D7C6 16D63 16D67-16D6A"⟩,
  ⟨["ZWJ"], joiner⟩]

/-! ## Words -/

def wordExtension : CharSet := graphemeExtend ∪ categoryRanges "Mc" ∪ emojiModifier

def wordFormat : CharSet :=
  categoryRanges "Cf" \ (graphemeExtend ∪ prependedConcatenationMark ∪ .ofText "200B 200D")

def hebrewLetter : CharSet := scriptRanges "Hebrew" ∩ categoryRanges "Lo"

def wordKatakana : CharSet :=
  scriptRanges "Katakana" ∪ .ofText "3031-3035 309B-309C 30A0 30FC FF70"

/-- Letters of the scripts that are written without blanks between words. -/
def unspacedLetters : CharSet := .ofText
  "E01-E30 E32-E33 E40-E46 E81-E82 E84 E86-E8A E8C-EA3 EA5 EA7-EB0 EB2-EB3 EBD EC0-EC4 EC6 EDC-EDF
  1000-102A 103F 1050-1055 105A-105D 1061 1065-1066 106E-1070 1075-1081 108E 1780-17B3 17D7 17DC
  1950-196D 1970-1974 1980-19AB 19B0-19C9 1A20-1A54 1AA7 A9E0-A9E4 A9E6-A9EF A9FA-A9FE AA60-AA76
  AA7A AA7E-AAAF AAB1 AAB5-AAB6 AAB9-AABD AAC0 AAC2 AADB-AADD 11700-1171A 11740-11746"

def wordLetter : CharSet :=
  (alphabetic ∪ .ofText
    "2C2-2C5 2D2-2D7 2DE-2DF 2E5-2EB 2ED 2EF-2FF 55A-55C 55E 58A 5F3 70F A708-A716 A720-A721
    A789-A78A AB5B")
    \ (ideographic ∪ scriptRanges "Hiragana" ∪ wordKatakana ∪ hebrewLetter ∪ wordExtension
      ∪ unspacedLetters)

/-- Digits, and the signs that stand before or between them. -/
def sentenceNumeric : CharSet :=
  categoryRanges "Nd" ∪ .ofText "600-605 66B-66C 6DD 890-891 8E2 19DA 110BD 110CD"

def wordClasses : List NamedSet := [
  ⟨["ALetter", "LE"], wordLetter⟩,
  ⟨["CR"], carriageReturn⟩,
  ⟨["Double_Quote", "DQ"], .singleton '"'⟩,
  ⟨["Extend"], wordExtension⟩,
  ⟨["ExtendNumLet", "EX"], categoryRanges "Pc" ∪ .ofText "202F"⟩,
  ⟨["Format", "FO"], wordFormat⟩,
  ⟨["Hebrew_Letter", "HL"], hebrewLetter⟩,
  ⟨["Katakana", "KA"], wordKatakana⟩,
  ⟨["LF"], lineFeed⟩,
  ⟨["MidLetter", "ML"], .ofText "3A B7 387 55F 5F4 2027 FE13 FE55 FF1A"⟩,
  ⟨["MidNum", "MN"], .ofText "2C 3B 37E 589 60C-60D 66C 7F8 2044 FE50 FE54 FF0C FF1B"⟩,
  ⟨["MidNumLet", "MB"], .ofText "2E 2018-2019 2024 FE52 FF07 FF0E"⟩,
  ⟨["Newline", "NL"], .ofText "B-C 85 2028-2029"⟩,
  ⟨["Numeric", "NU"], sentenceNumeric \ .ofText "66C"⟩,
  ⟨["Regional_Indicator", "RI"], regionalIndicator⟩,
  ⟨["Single_Quote", "SQ"], .singleton '\''⟩,
  ⟨["WSegSpace"], .ofText "20 1680 2000-2006 2008-200A 205F 3000"⟩,
  ⟨["ZWJ"], joiner⟩]

/-! ## Sentences -/

def sentenceExtension : CharSet := graphemeExtend ∪ categoryRanges "Mc" ∪ joiner

/-- Lower-case letters; those of Georgian begin sentences too and are not among them. -/
def sentenceLower : CharSet := lowercase \ (sentenceExtension ∪ .ofText "10D0-10FA 10FD-10FF")

def sentenceUpper : CharSet :=
  (uppercase ∪ categoryRanges "Lt") \ .ofText "1C90-1CBA 1CBD-1CBF"

def sentenceLetter : CharSet :=
  (alphabetic ∪ .ofText "5F3") \ (sentenceLower ∪ sentenceUpper ∪ sentenceExtension)

def fullStops : CharSet := .ofText "2E 2024 FE52 FF0E"

def sentenceClose : CharSet :=
  categoryRanges "Ps" ∪ categoryRanges "Pe" ∪ categoryRanges "Pi" ∪ categoryRanges "Pf"
    ∪ .ofText "22 27 275B-2760 2E00-2E01 2E06-2E08 2E0B 1F676-1F678"

def sentenceSeparator : CharSet := .ofText "85 2028-2029"

def sentenceClasses : List NamedSet := [
  ⟨["ATerm", "AT"], fullStops⟩,
  ⟨["Close", "CL"], sentenceClose⟩,
  ⟨["CR"], carriageReturn⟩,
  ⟨["Extend", "EX"], sentenceExtension⟩,
  ⟨["Format", "FO"], wordFormat ∪ .ofText "70F 200B"⟩,
  ⟨["LF"], lineFeed⟩,
  ⟨["Lower", "LO"], sentenceLower⟩,
  ⟨["Numeric", "NU"], sentenceNumeric⟩,
  ⟨["OLetter", "LE"], sentenceLetter⟩,
  ⟨["SContinue", "SC"], .ofText
    "2C-2D 3A-3B 37E 55D 60C-60D 7F8 1802 1808 2013-2014 3001 FE10-FE11 FE13-FE14 FE31-FE32
    FE50-FE51 FE54-FE55 FE58 FE63 FF0C-FF0D FF1A-FF1B FF64"⟩,
  ⟨["Sep", "SE"], sentenceSeparator⟩,
  ⟨["Sp"], Text.blankRanges \ (sentenceSeparator ∪ carriageReturn ∪ lineFeed)⟩,
  ⟨["STerm", "ST"], sentenceTerminal \ fullStops⟩,
  ⟨["Upper", "UP"], sentenceUpper⟩]

end CypherExpr.Regex.Segmentation
