import SurveyIntake.Unicode.Category
import SurveyIntake.Unicode.Script
import SurveyIntake.Unicode.Property
import SurveyIntake.Unicode.Age
import SurveyIntake.Unicode.Break

/-!
# SurveyIntake.Unicode.Name

Sets of characters by the names of Unicode properties and of their values.

Case, blanks, hyphens and underscores in names do not matter, and neither does `is` before them.

* `Unicode.named?`  — a property that a character has or has not, a general category or a script.
* `Unicode.valued?` — a category, a script, a version or a part in a division under the name of the
  property that it is a value of.
-/

namespace SurveyIntake
namespace Unicode

def isSeparator (c : Char) : Bool := c == ' ' || c == '_' || c == '-'

/-- Names that stand for the same have one loose form. The one name that would be mistaken for
another without its `is` keeps it. -/
def loose (name : List Char) : List Char :=
  let plain (s : List Char) : List Char :=
    (s.filter fun c => !isSeparator c && decide (c.toNat < 128)).map Char.toLower
  match name with
  | a :: b :: rest =>
    if a.toLower = 'i' ∧ b.toLower = 's' then
      if plain rest = ['c'] then ['i', 's', 'c'] else plain rest
    else plain name
  | _ => plain name

/-- Whether a loose name is one of the names given. -/
def names (wanted : List Char) (spellings : List String) : Bool :=
  spellings.any fun s => loose s.toList == wanted

/-- Loose names of properties whose values are not just yes and no. -/
def valuedProperties : List String :=
  ["age", "bc", "bidiclass", "bidimirroringglyph", "bidipairedbracket", "bidipairedbrackettype",
    "blk", "block", "bmg", "bpb", "bpt", "canonicalcombiningclass", "casefolding", "ccc", "cf",
    "decompositionmapping", "decompositiontype", "dm", "dt", "ea", "eastasianwidth", "fcnfkc",
    "fcnfkcclosure", "gc", "gcb", "generalcategory", "graphemeclusterbreak", "hangulsyllabletype",
    "hst", "indicpositionalcategory", "indicsyllabiccategory", "inpc", "insc", "isc", "isocomment",
    "jamoshortname", "jg", "joininggroup", "joiningtype", "jsn", "jt", "lb", "lc", "linebreak",
    "lowercasemapping", "na", "na1", "name", "namealias", "nfcqc", "nfcquickcheck", "nfdqc",
    "nfdquickcheck", "nfkccasefold", "nfkccf", "nfkcqc", "nfkcquickcheck", "nfkdqc",
    "nfkdquickcheck", "nt", "numerictype", "numericvalue", "nv", "sb", "sc", "scf", "script",
    "scriptextensions", "scx", "sentencebreak", "sfc", "simplecasefolding",
    "simplelowercasemapping", "simpletitlecasemapping", "simpleuppercasemapping", "slc", "stc",
    "suc", "tc", "titlecasemapping", "uc", "unicode1name", "uppercasemapping", "verticalorientation",
    "vo", "wb", "wordbreak"]

/-- Short names of properties that are taken for categories all the same. -/
def categoryFirst : List String := ["cf", "sc", "lc"]

def category? (wanted : List Char) : Option CharSet :=
  if wanted = "any".toList then some .full
  else if wanted = "assigned".toList then some (.compl (Category.set "Cn"))
  else if wanted = "ascii".toList then some (.range 0 0x7F)
  else
    match Category.names.find? fun row => names wanted (row.1 :: row.2) with
    | some (code, _) => if code = "Cs" then none else some (Category.set code)
    | none => none

/-- The first name of what a loose name stands for in a list of names. -/
def first? (rows : List (String × List String)) (wanted : List Char) : Option String :=
  (rows.find? fun row => names wanted (row.1 :: row.2)).map Prod.fst

/-- The code of a script. -/
def script? (wanted : List Char) : Option String := first? Script.names wanted

def property? (wanted : List Char) : Option CharSet :=
  (Property.table.find? fun row => names wanted (row.1 :: row.2.1)).map fun row => Property.set row.1

def named? (name : List Char) : Option CharSet :=
  let wanted := loose name
  let other : Option CharSet :=
    match category? wanted with
    | some s => some s
    | none => (script? wanted).map Script.set
  if categoryFirst.contains (String.ofList wanted) then other
  else
    match property? wanted with
    | some s => some s
    | none => if valuedProperties.contains (String.ofList wanted) then none else other

/-- The characters with a part in a division. -/
def part? (b : Break) (wanted : List Char) : Option CharSet :=
  (first? b.names wanted).map b.set

def valued? (property value : List Char) : Option CharSet :=
  let property := loose property
  let wanted := loose value
  if names property ["General_Category", "gc"] then category? wanted
  else if names property ["Script", "sc"] then (script? wanted).map Script.set
  else if names property ["Script_Extensions", "scx"] then (script? wanted).map Script.extendedSet
  else if names property ["Age"] then (first? Age.names wanted).map Age.set
  else if names property ["Grapheme_Cluster_Break", "GCB"] then part? .cluster wanted
  else if names property ["Word_Break", "WB"] then part? .word wanted
  else if names property ["Sentence_Break", "SB"] then part? .sentence wanted
  else none

end Unicode
end SurveyIntake
