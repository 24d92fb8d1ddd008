import Lisplet.Regex.BinaryProperty
import Lisplet.Text.Script

namespace Lisplet.Segmentation

/-! The parts that characters play where a text is cut into what is seen as one character, into
words and into sentences. -/

def carriageReturn : CharSet :=
  .only '\r'

def lineFeed : CharSet :=
  .only '\n'

def joiner : CharSet :=
  .only '\u200d'

def extension : CharSet :=
  Repertoire.graphemeExtend.union BinaryProperty.emojiModifier

def shaping : CharSet :=
  Repertoire.format.minus
    (.unions
      [Repertoire.joinControl, BinaryProperty.prependedConcatenationMark,
        Repertoire.graphemeExtend])

def graphemeControl : CharSet :=
  (CharSet.unions
    [shaping, Repertoire.ofCategory .control, Repertoire.ofCategory .lineSeparator,
      Repertoire.ofCategory .paragraphSeparator,
      Repertoire.unassigned.inter BinaryProperty.defaultIgnorable]).minus
    (carriageReturn.union lineFeed)

def graphemePrepend : CharSet :=
  .ofText
    "600-605 6dd 70f 890-891 8e2 d4e 110bd 110cd 111c2-111c3 113d1 1193f 11941 11a3a 11a84-11a89
11d46 11f02"

def graphemeSpacingMark : CharSet :=
  ((Repertoire.spacing.minus Repertoire.graphemeExtend).minus
    (.ofText
      "102b-102c 1038 1062-1064 1067-106d 1083 1087-108c 108f 109a-109c 1a61 1a63-1a64 aa7b aa7d
11720-11721")).union
    (.ofText "e33 eb3")

def hangulSyllable : CharSet :=
  .ofText "ac00-d7a3"

def hangulOpenSyllable : CharSet :=
  .ofCodes ((List.range 399).map fun index => 0xac00 + 28 * index)

def graphemeBreak : List (List String × CharSet) :=
  [ (["CR"], carriageReturn),
    (["Control", "CN"], graphemeControl),
    (["Extend", "EX"], extension),
    (["L"], .ofText "1100-115f a960-a97c"),
    (["LF"], lineFeed),
    (["LV"], hangulOpenSyllable),
    (["LVT"], hangulSyllable.minus hangulOpenSyllable),
    (["Prepend", "PP"], graphemePrepend),
    (["Regional_Indicator", "RI"], BinaryProperty.regionalIndicator),
    (["SpacingMark", "SM"], graphemeSpacingMark),
    (["T"], .ofText "11a8-11ff d7cb-d7fb"),
    (["V"], .ofText "1160-11a7 d7b0-d7c6 16d63 16d67-16d6a"),
    (["ZWJ"], joiner) ]

def wordExtend : CharSet :=
  extension.union Repertoire.spacing

def hebrewLetter : CharSet :=
  (Script.ofCode "Hebr").inter (Repertoire.ofCategory .otherLetter)

def katakana : CharSet :=
  (Script.ofCode "Kana").union (.ofText "3031-3035 309b-309c 30a0 30fc ff70")

def numeric : CharSet :=
  Repertoire.decimalDigit.union (.ofText "600-605 66b 6dd 890-891 8e2 19da 110bd 110cd")

def unspacedLetter : CharSet :=
  .ofText
    "e01-e30 e32-e33 e40-e46 e81-e82 e84 e86-e8a e8c-ea3 ea5 ea7-eb0 eb2-eb3 ebd ec0-ec4 ec6
edc-edf 1000-102a 103f 1050-1055 105a-105d 1061 1065-1066 106e-1070 1075-1081 108e 1780-17b3 17d7
17dc 1950-196d 1970-1974 1980-19ab 19b0-19c9 1a20-1a54 1aa7 a9e0-a9e4 a9e6-a9ef a9fa-a9fe
aa60-aa76 aa7a aa7e-aaaf aab1 aab5-aab6 aab9-aabd aac0 aac2 aadb-aadd 11700-1171a 11740-11746"

def wordLetter : CharSet :=
  (Repertoire.alphabetic.minus
    (.unions
      [BinaryProperty.ideographic, Script.ofCode "Hira", katakana, hebrewLetter, wordExtend,
        unspacedLetter])).union
    (.ofText
      "b8 2c2-2c5 2d2-2d7 2de-2df 2e5-2eb 2ed 2ef-2ff 55a-55c 55e 58a 5f3 70f a708-a716 a720-a721
a789-a78a ab5b")

def wordBreak : List (List String × CharSet) :=
  [ (["ALetter", "LE"], wordLetter),
    (["CR"], carriageReturn),
    (["Double_Quote", "DQ"], .only '"'),
    (["Extend"], wordExtend),
    (["ExtendNumLet", "EX"], .ofText "5f 202f 203f-2040 2054 fe33-fe34 fe4d-fe4f ff3f"),
    (["Format", "FO"], shaping.minus (.only '\u200b')),
    (["Hebrew_Letter", "HL"], hebrewLetter),
    (["Katakana", "KA"], katakana),
    (["LF"], lineFeed),
    (["MidLetter", "ML"], .ofText "3a b7 387 55f 5f4 2027 fe13 fe55 ff1a"),
    (["MidNum", "MN"], .ofText "2c 3b 37e 589 60c-60d 66c 7f8 2044 fe50 fe54 ff0c ff1b"),
    (["MidNumLet", "MB"], .ofText "2e 2018-2019 2024 fe52 ff07 ff0e"),
    (["Newline", "NL"], .ofText "b-c 85 2028-2029"),
    (["Numeric", "NU"], numeric),
    (["Regional_Indicator", "RI"], BinaryProperty.regionalIndicator),
    (["Single_Quote", "SQ"], .ofText "27"),
    (["WSegSpace"], .ofText "20 1680 2000-2006 2008-200a 205f 3000"),
    (["ZWJ"], joiner) ]

def fullStop : CharSet :=
  .ofText "2e 2024 fe52 ff0e"

/-- Letters of a script that uses its capitals for emphasis are neither small nor capital here. -/
def georgian : CharSet :=
  .ofText "10d0-10fa 10fd-10ff 1c90-1cba 1cbd-1cbf"

def sentenceExtend : CharSet :=
  .unions [Repertoire.graphemeExtend, Repertoire.spacing, joiner]

def sentenceLower : CharSet :=
  Repertoire.lowercase.minus (Repertoire.graphemeExtend.union georgian)

def sentenceUpper : CharSet :=
  (Repertoire.uppercase.union Repertoire.titlecase).minus georgian

def sentenceLetter : CharSet :=
  (Repertoire.alphabetic.minus (.unions [sentenceLower, sentenceUpper, sentenceExtend])).union
    (.ofText "5f3")

def sentenceClose : CharSet :=
  ((CharSet.unions
    [Repertoire.ofCategory .openPunctuation, Repertoire.ofCategory .closePunctuation,
      Repertoire.ofCategory .initialPunctuation, Repertoire.ofCategory .finalPunctuation,
      BinaryProperty.quotationMark]).minus (.ofText "ff02 ff07")).union
    (.ofText "275b-2760 2e00-2e01 2e06-2e08 2e0b 1f676-1f678")

def sentenceBreak : List (List String × CharSet) :=
  [ (["ATerm", "AT"], fullStop),
    (["CR"], carriageReturn),
    (["Close", "CL"], sentenceClose),
    (["Extend", "EX"], sentenceExtend),
    (["Format", "FO"], shaping.union (.ofText "70f")),
    (["LF"], lineFeed),
    (["Lower", "LO"], sentenceLower),
    (["Numeric", "NU"], numeric.union (.ofText "66c")),
    (["OLetter", "LE"], sentenceLetter),
    (["SContinue", "SC"],
      .ofText
        "2c-2d 3a-3b 37e 55d 60c-60d 7f8 1802 1808 2013-2014 3001 fe10-fe11 fe13-fe14 fe31-fe32
fe50-fe51 fe54-fe55 fe58 fe63 ff0c-ff0d ff1a-ff1b ff64"),
    (["STerm", "ST"], BinaryProperty.sentenceTerminal.minus fullStop),
    (["Sep", "SE"], .ofText "85 2028-2029"),
    (["Sp", "SP"], .ofText "9 b-c 20 a0 1680 2000-200a 202f 205f 3000"),
    (["Upper", "UP"], sentenceUpper) ]

end Lisplet.Segmentation
