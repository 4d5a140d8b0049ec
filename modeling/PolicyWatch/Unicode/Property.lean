import PolicyWatch.Unicode.CharSet
import PolicyWatch.Unicode.GeneralCategory
import PolicyWatch.Unicode.Script
import PolicyWatch.Unicode.ScriptExtension
import PolicyWatch.Unicode.BinaryProperty
import PolicyWatch.Unicode.Age
import PolicyWatch.Unicode.Segmentation
import PolicyWatch.Unicode.WordTable
import PolicyWatch.Text.Basic

/-!
# Character properties by name

A property is named alone, as a category, a script or a binary property, or
together with a value.  Names are compared without case, blanks, dashes and
underscores, and without a leading `is`.
-/

namespace PolicyWatch.Unicode

def countsInName (character : Char) : Bool :=
  character.toNat ≤ 0x7F && character != ' ' && character != '_' && character != '-'

/-- A name in the form in which names are compared.  The name `isc` keeps its
first letters, so that it does not turn into the category `c`. -/
def comparableName (name : List Char) : String :=
  let plain := fun text => (Text.lowerBasic (text.filter countsInName))
  match name with
  | first :: second :: rest =>
      if (first = 'i' ∨ first = 'I') ∧ (second = 's' ∨ second = 'S') then
        let stripped := plain rest
        if stripped = ['c'] then "isc" else String.ofList stripped
      else String.ofList (plain name)
  | _ => String.ofList (plain name)

def setOf? (table : List NamedRanges) (name : String) : Option CharSet :=
  (NamedRanges.find? table name).map CharSet.ofRanges

/-- The union of some categories, given by their short names. -/
def categoryUnion (names : List String) : CharSet :=
  names.foldl
    (fun grown name => grown.union ((setOf? generalCategories name).getD CharSet.empty))
    CharSet.empty

def categoryGroup? (name : String) : Option (List String) :=
  if ["l", "letter"].contains name then some ["lu", "ll", "lt", "lm", "lo"]
  else if ["lc", "casedletter"].contains name then some ["lu", "ll", "lt"]
  else if ["m", "mark", "combiningmark"].contains name then some ["mn", "mc", "me"]
  else if ["n", "number"].contains name then some ["nd", "nl", "no"]
  else if ["p", "punct", "punctuation"].contains name then
    some ["pc", "pd", "ps", "pe", "pi", "pf", "po"]
  else if ["s", "symbol"].contains name then some ["sm", "sc", "sk", "so"]
  else if ["z", "separator"].contains name then some ["zs", "zl", "zp"]
  else if ["c", "other"].contains name then some ["cc", "cf", "co", "cn"]
  else none

def categorySet? (name : String) : Option CharSet :=
  if name = "any" then some CharSet.full
  else if name = "assigned" then some (categoryUnion ["cn"]).complement
  else if name = "ascii" then some (CharSet.range 0 0x7F)
  else
    match categoryGroup? name with
    | some names => some (categoryUnion names)
    | none => setOf? generalCategories name

/-- The set of a property that is named alone.  `cf`, `sc` and `lc` name
categories, although properties are known by these names too. -/
def propertySet? (name : List Char) : Option CharSet :=
  let comparable := comparableName name
  (setOf? binaryProperties comparable).or
    ((categorySet? comparable).or (setOf? scripts comparable))

/-- The characters that the versions up to a named one have added. -/
def ageSet? (name : String) : Option CharSet :=
  if ages.any (fun age => age.names.contains name) then
    let earlier := ages.takeWhile fun age => !age.names.contains name
    let grown := earlier.foldl
      (fun grown age => grown.union (CharSet.ofRanges (readRanges age.text))) CharSet.empty
    (setOf? ages name).map grown.union
  else none

def valueSet? (property value : List Char) : Option CharSet :=
  let property := comparableName property
  let value := comparableName value
  if ["gc", "generalcategory"].contains property then categorySet? value
  else if ["sc", "script"].contains property then setOf? scripts value
  else if ["scx", "scriptextensions"].contains property then setOf? scriptExtensions value
  else if property = "age" then ageSet? value
  else if ["gcb", "graphemeclusterbreak"].contains property then setOf? graphemeClusterBreaks value
  else if ["wb", "wordbreak"].contains property then setOf? wordBreaks value
  else if ["sb", "sentencebreak"].contains property then setOf? sentenceBreaks value
  else none

def wordSet : CharSet := CharSet.ofRanges (readRanges wordText)

def digitSet : CharSet := categoryUnion ["nd"]

def blankSet : CharSet := (setOf? binaryProperties "whitespace").getD CharSet.empty

def alphabeticSet : CharSet := (setOf? binaryProperties "alphabetic").getD CharSet.empty

def numericSet : CharSet := categoryUnion ["nd", "nl", "no"]

end PolicyWatch.Unicode
