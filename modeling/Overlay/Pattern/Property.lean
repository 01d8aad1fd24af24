import Overlay.Unicode.Age
import Overlay.Unicode.Category
import Overlay.Unicode.Property
import Overlay.Unicode.Script
import Overlay.Unicode.ScriptExtension

/-!
Sets of characters by the names of their properties: categories, binary
properties, scripts and ages. Names are in small letters and have no
separators; `looseName` brings a name into this form.
-/

namespace Overlay.Pattern

/-- The set under the name `name` in a table. -/
def row? (table : List (List String × Ranges)) (name : String) : Option Ranges :=
  (table.find? fun r => r.1.contains name).map (·.2)

/-- The members of several categories. -/
def categories (names : List String) : Ranges :=
  Ranges.normal (names.flatMap fun n => (row? Unicode.categoryRows n).getD [])

/-- The members of a property in the table, by one of its names. -/
def property (name : String) : Ranges := (row? Unicode.propertyRows name).getD []

def script? (name : String) : Option Ranges := row? Unicode.scriptRows name

def letters : List String := ["lu", "ll", "lt", "lm", "lo"]

/-- Categories that are made of others, with their names. -/
def categoryGroups : List (List String × List String) := [
  (["lc", "casedletter"], ["lu", "ll", "lt"]),
  (["l", "letter"], letters),
  (["m", "mark", "combiningmark"], ["mn", "mc", "me"]),
  (["n", "number"], ["nd", "nl", "no"]),
  (["p", "punctuation", "punct"], ["pc", "pd", "ps", "pe", "pi", "pf", "po"]),
  (["s", "symbol"], ["sm", "sc", "sk", "so"]),
  (["z", "separator"], ["zs", "zl", "zp"])]

/-- The scalar values that have a category. -/
def assigned : Ranges := Ranges.normal (Unicode.categoryRows.flatMap (·.2))

def unassigned : Ranges := assigned.complement

/-- The members of a general category, by one of its names. -/
def category? (name : String) : Option Ranges :=
  if name == "any" then some Ranges.scalars
  else if name == "assigned" then some assigned
  else if name == "ascii" then some [(0, 0x7F)]
  else if name == "cn" || name == "unassigned" then some unassigned
  else if name == "c" || name == "other" then
    some ((categories ["cc", "cf", "co"]).union unassigned)
  else
    match categoryGroups.find? fun g => g.1.contains name with
    | some g => some (categories g.2)
    | none => row? Unicode.categoryRows name

/-- Characters that start identifiers although no category says so. -/
def otherIdStart : Ranges :=
  [(0x1885, 0x1886), (0x2118, 0x2118), (0x212E, 0x212E), (0x309B, 0x309C)]

def otherIdContinue : Ranges :=
  [(0xB7, 0xB7), (0x387, 0x387), (0x1369, 0x1371), (0x19DA, 0x19DA), (0x200C, 0x200D),
    (0x30FB, 0x30FB), (0xFF65, 0xFF65)]

def idStart : Ranges :=
  Ranges.diff ((categories ("nl" :: letters)).union otherIdStart)
    ((property "patternsyntax").union (property "patternwhitespace"))

def idContinue : Ranges :=
  (idStart.union (categories ["mn", "mc", "nd", "pc"])).union otherIdContinue

/-- Characters whose compatibility forms break identifiers at their start. -/
def notXidStart : Ranges :=
  [(0x37A, 0x37A), (0xE33, 0xE33), (0xEB3, 0xEB3), (0x309B, 0x309C), (0xFC5E, 0xFC63),
    (0xFDFA, 0xFDFB), (0xFE70, 0xFE70), (0xFE72, 0xFE72), (0xFE74, 0xFE74), (0xFE76, 0xFE76),
    (0xFE78, 0xFE78), (0xFE7A, 0xFE7A), (0xFE7C, 0xFE7C), (0xFE7E, 0xFE7E), (0xFF9E, 0xFF9F)]

def notXidContinue : Ranges :=
  [(0x37A, 0x37A), (0x309B, 0x309C), (0xFC5E, 0xFC63), (0xFDFA, 0xFDFB), (0xFE70, 0xFE70),
    (0xFE72, 0xFE72), (0xFE74, 0xFE74), (0xFE76, 0xFE76), (0xFE78, 0xFE78), (0xFE7A, 0xFE7A),
    (0xFE7C, 0xFE7C), (0xFE7E, 0xFE7E)]

/-- The members of a binary property, by one of its names. A property whose
name begins with `other` holds the members of the property after it that are
there although no category says so. -/
def property? (name : String) : Option Ranges :=
  match name with
  | "idstart" | "ids" => some idStart
  | "idcontinue" | "idc" => some idContinue
  | "xidstart" | "xids" => some (idStart.diff notXidStart)
  | "xidcontinue" | "xidc" => some (idContinue.diff notXidContinue)
  | "graphemebase" | "grbase" =>
    some (assigned.diff ((categories ["cc", "cf", "co", "zl", "zp"]).union
      (property "graphemeextend")))
  | "otheralphabetic" | "oalpha" =>
    some ((property "alphabetic").diff (categories ("nl" :: letters)))
  | "otherdefaultignorablecodepoint" | "odi" =>
    some ((property "defaultignorablecodepoint").diff
      ((categories ["cf"]).union (property "variationselector")))
  | "othergraphemeextend" | "ogrext" =>
    some ((property "graphemeextend").diff (categories ["mn", "me"]))
  | "otheridcontinue" | "oidc" => some otherIdContinue
  | "otheridstart" | "oids" => some otherIdStart
  | "otherlowercase" | "olower" => some ((property "lowercase").diff (categories ["ll"]))
  | "othermath" | "omath" => some ((property "math").diff (categories ["sm"]))
  | "otheruppercase" | "oupper" => some ((property "uppercase").diff (categories ["lu"]))
  | _ => row? Unicode.propertyRows name

/-- The characters for which the table lists scripts. -/
def extended : Ranges := Ranges.normal (Unicode.scriptExtensionRows.flatMap (·.2))

/-- The characters that are used with a script: those for which the table
lists it, and those of the script for which the table lists nothing. -/
def scriptExtension? (name : String) : Option Ranges := do
  let row ← Unicode.scriptRows.find? fun r => r.1.contains name
  let listed := Unicode.scriptExtensionRows.filter fun r => r.1.any row.1.contains
  some ((Ranges.normal (listed.flatMap (·.2))).union (row.2.diff extended))

/-- The code points of a row with the name `name` and of all rows before it. -/
def upTo? (name : String) : List (List String × Ranges) → Option Ranges
  | [] => none
  | (names, set) :: later =>
    if names.contains name then some set else (upTo? name later).map set.union

/-- The code points that a version of the character set assigns. -/
def age? (name : String) : Option Ranges := upTo? name Unicode.ageRows

/-- A name without case, separators, characters beyond ASCII and a prefix
`is`. The name `isc` is kept as it is, for it is not the category `c`. -/
def looseName (name : Text) : String :=
  let (hasIs, rest) := match name.map Char.toLower with
    | 'i' :: 's' :: rest => (true, rest)
    | small => (false, small)
  let kept := rest.filter fun c => c.toNat < 128 && c != ' ' && c != '_' && c != '-'
  if hasIs ∧ kept = ['c'] then "isc" else String.ofList kept

end Overlay.Pattern
