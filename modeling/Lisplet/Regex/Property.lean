import Lisplet.Regex.Segmentation

namespace Lisplet.CharSet

def ascii : CharSet :=
  range '\x00' '\x7f'

def asciiDigit : CharSet :=
  range '0' '9'

def asciiSpace : CharSet :=
  ofText "9-d 20"

def asciiWord : CharSet :=
  ofText "30-39 41-5a 5f 61-7a"

def posix : List (String × CharSet) :=
  [ ("alnum", ofText "30-39 41-5a 61-7a"), ("alpha", ofText "41-5a 61-7a"), ("ascii", ascii),
    ("blank", ofText "9 20"), ("cntrl", ofText "0-1f 7f"), ("digit", asciiDigit),
    ("graph", ofText "21-7e"), ("lower", ofText "61-7a"), ("print", ofText "20-7e"),
    ("punct", ofText "21-2f 3a-40 5b-60 7b-7e"), ("space", asciiSpace), ("upper", ofText "41-5a"),
    ("word", asciiWord), ("xdigit", ofText "30-39 41-46 61-66") ]

/-- A name in small letters without blanks, hyphens, underscores and a leading `is`. -/
def normalize (name : List Char) : String :=
  let (stripped, rest) :=
    match name with
    | first :: second :: rest =>
        if first.toLower = 'i' ∧ second.toLower = 's' then (true, rest) else (false, name)
    | name => (false, name)
  let letters :=
    (rest.filter fun c => c.toNat < 128 ∧ c ≠ ' ' ∧ c ≠ '_' ∧ c ≠ '-').map Char.toLower
  if stripped ∧ letters = ['c'] then "isc" else String.ofList letters

def lookup? (name : String) (entries : List (List String × α)) : Option α :=
  (entries.find? fun (names, _) => names.any fun other => normalize other.toList = name).map
    Prod.snd

def groups : List (List String × Char) :=
  [ (["L", "Letter"], 'L'), (["M", "Mark", "Combining_Mark"], 'M'), (["N", "Number"], 'N'),
    (["P", "Punctuation", "punct"], 'P'), (["S", "Symbol"], 'S'), (["Z", "Separator"], 'Z'),
    (["C", "Other"], 'C') ]

def categories : List (List String × Category) :=
  (["cntrl"], .control) :: (["digit"], .decimalNumber) ::
    Category.all.map fun category => ([category.code, category.name], category)

def casedLetter (category : Category) : Bool :=
  match category with
  | .uppercaseLetter | .lowercaseLetter | .titlecaseLetter => true
  | _ => false

def category? (name : String) : Option CharSet :=
  match name with
  | "any" => some anything
  | "assigned" => some Repertoire.unassigned.complement
  | "ascii" => some ascii
  | "lc" | "casedletter" => some (Repertoire.withCategory casedLetter)
  | _ =>
      ((lookup? name groups).map Repertoire.ofGroup).or
        ((lookup? name categories).map Repertoire.ofCategory)

def scriptAliases : List (List String × String) :=
  [(["Qaac"], "Copt"), (["Qaai"], "Zinh")]

def scriptCode? (name : String) : Option String :=
  lookup? name
    (scriptAliases ++ Script.names.map fun (code, full) => ([code, full], code))

def age? (name : String) : Option CharSet :=
  let versions := Age.versions.filter (· ≠ Age.latest)
  (versions.findIdx? fun version => version = name ∨ label version = name).map fun index =>
    Age.cameWith (versions.take (index + 1))
where
  /-- The version `4.1` is also called `V4_1`. -/
  label (version : String) : String :=
    String.ofList ('v' :: version.toList.filter (· ≠ '.'))

def named? (name : String) : Option CharSet :=
  ((lookup? name BinaryProperty.all).or (category? name)).or
    ((scriptCode? name).map Script.ofCode)

def valued? (property value : String) : Option CharSet :=
  match property with
  | "gc" | "generalcategory" => category? value
  | "sc" | "script" => (scriptCode? value).map Script.ofCode
  | "scx" | "scriptextensions" => (scriptCode? value).map Script.extensionOfCode
  | "age" => age? value
  | "gcb" | "graphemeclusterbreak" => lookup? value Segmentation.graphemeBreak
  | "wb" | "wordbreak" => lookup? value Segmentation.wordBreak
  | "sb" | "sentencebreak" => lookup? value Segmentation.sentenceBreak
  | _ => none

end Lisplet.CharSet
