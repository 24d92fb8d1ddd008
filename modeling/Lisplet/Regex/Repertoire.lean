import Lisplet.Text.Age
import Lisplet.Text.CaseFolding

namespace Lisplet.Repertoire

/-! The characters that patterns know. Patterns keep to the version before the latest one, for which
the characters that came last are still free. -/

def later : CharSet :=
  Age.cameWith [Age.latest]

/-- What was in a set before the latest version. -/
def known (set : CharSet) : CharSet :=
  set.minus later

def knownPairs (pairs : List (Nat × Nat)) : List (Nat × Nat) :=
  let later := later.edges
  pairs.filter fun (code, target) => !later.holds code && !later.holds target

/-- The one character whose category has changed since. It used to be a small letter. -/
def reclassified : CharSet :=
  .only 'ʕ'

def withCategory (holds : Category → Bool) : CharSet :=
  let kept := (Category.table.toSet holds).minus (later.union reclassified)
  .unions
    [kept, if holds .unassigned then later else .nothing,
      if holds .lowercaseLetter then reclassified else .nothing]

def ofCategory (category : Category) : CharSet :=
  withCategory (· = category)

def ofGroup (group : Char) : CharSet :=
  withCategory (·.inGroup group)

def letter : CharSet :=
  ofGroup 'L'

def mark : CharSet :=
  ofGroup 'M'

def nonspacing : CharSet :=
  withCategory fun category => category = .nonspacingMark || category = .enclosingMark

def spacing : CharSet :=
  ofCategory .spacingMark

def format : CharSet :=
  ofCategory .format

def decimalDigit : CharSet :=
  ofCategory .decimalNumber

def unassigned : CharSet :=
  ofCategory .unassigned

def titlecase : CharSet :=
  ofCategory .titlecaseLetter

def letterNumber : CharSet :=
  ofCategory .letterNumber

def whiteSpace : CharSet :=
  CharProperty.whiteSpace

def otherLowercase : CharSet :=
  known CharProperty.otherLowercase

def otherUppercase : CharSet :=
  known CharProperty.otherUppercase

def lowercase : CharSet :=
  (ofCategory .lowercaseLetter).union otherLowercase

def uppercase : CharSet :=
  (ofCategory .uppercaseLetter).union otherUppercase

def cased : CharSet :=
  .unions [lowercase, uppercase, titlecase]

def caseIgnorable : CharSet :=
  .unions
    [nonspacing, format, ofCategory .modifierLetter, ofCategory .modifierSymbol,
      CharProperty.otherCaseIgnorable]

def alphabetic : CharSet :=
  .unions [letter, letterNumber, lowercase, uppercase, known CharProperty.otherAlphabetic]

def otherGraphemeExtend : CharSet :=
  known CharProperty.otherGraphemeExtend

def graphemeExtend : CharSet :=
  nonspacing.union otherGraphemeExtend

def joinControl : CharSet :=
  .range '\u200c' '\u200d'

def word : CharSet :=
  .unions [alphabetic, mark, decimalDigit, ofCategory .connectorPunctuation, joinControl]

def ofGrowing (growing : List (Nat × List Nat)) : CharSet :=
  .ofCodes (growing.map Prod.fst)

def ofShifts (shifts : List CodeShift) : CharSet :=
  .ofCodes ((knownPairs (CodeShift.pairs shifts)).map Prod.fst)

def changesLowercased : CharSet :=
  (ofShifts LetterCase.lowerShifts).union (ofGrowing LetterCase.lowerGrowing)

def changesUppercased : CharSet :=
  (ofShifts LetterCase.upperShifts).union (ofGrowing LetterCase.upperGrowing)

/-- Letters that begin a word in their capital form have none of their own, and the capitals of
letter pairs have another one there. -/
def changesTitlecased : CharSet :=
  (changesUppercased.minus (titlecase.union (.ofText "10d0-10fa 10fd-10ff"))).union
    (.ofText "1c4 1c7 1ca 1f1")

/-- Beside those that fold to another character, some fold to several, and three fold to what they
are made of. -/
def changesFolded : CharSet :=
  ((CharSet.ofCodes (CaseFolding.pairs.map Prod.fst)).minus (.ofText "1fbe 1fd3 1fe3")).union
    (.ofText
      "df 130 149 587 1e9a 1f80-1f87 1f90-1f97 1fa0-1fa7 1fb2-1fb4 1fb7 1fc2-1fc4 1fc7 1ff2-1ff4
1ff7 fb00-fb04 fb06 fb13-fb17")

def changesMapped : CharSet :=
  .unions [changesLowercased, changesUppercased, changesTitlecased]

end Lisplet.Repertoire
