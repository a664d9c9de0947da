import TextScopes.Text.Property.Age
import TextScopes.Text.Property.Binary
import TextScopes.Text.Property.Break
import TextScopes.Text.Property.Category
import TextScopes.Text.Property.Script
import TextScopes.Text.Property.ScriptExtension

/-!
This module contains the sets of characters that a property query names: a property that holds or
not, a general category, a script, or a property together with one of its values. Names are
compared loosely, see `Property.looseName`.
-/

namespace TextScopes

namespace Property

/-- Drop what loose matching of names ignores: letter case, blanks, underscores, hyphens and
characters outside ASCII. -/
def squeeze (name : List Char) : List Char :=
  (name.filter fun c => !(c == ' ' || c == '_' || c == '-') && c.toNat < 0x80).map Char.toLower

/-- The form in which names are compared. A leading `is` counts for nothing, but for the lone
abbreviation `isc`, which has a meaning of its own. -/
def looseName (name : List Char) : String :=
  match name with
  | i :: s :: rest =>
    if i.toLower = 'i' ∧ s.toLower = 's' then
      let short := String.ofList (squeeze rest)
      if short = "c" then "isc" else short
    else String.ofList (squeeze name)
  | _ => String.ofList (squeeze name)

def categoryUnions : List (List String × List String) := [
  (["lc", "casedletter"], ["lu", "ll", "lt"]),
  (["l", "letter"], ["lu", "ll", "lt", "lm", "lo"]),
  (["m", "mark", "combiningmark"], ["mn", "mc", "me"]),
  (["n", "number"], ["nd", "nl", "no"]),
  (["p", "punctuation", "punct"], ["pc", "pd", "ps", "pe", "pi", "pf", "po"]),
  (["s", "symbol"], ["sm", "sc", "sk", "so"]),
  (["z", "separator"], ["zs", "zl", "zp"])]

def categories (names : List String) : CharSet :=
  names.foldl (fun acc name => acc ∪ (categoryTable.find? name).getD ∅) ∅

def unassigned : CharSet :=
  categoryTable.all.complement \ CharSet.ofRanges [(0xD800, 0xDFFF)]

/-- The characters of a general category, given by its loose name. -/
def category? (name : String) : Option CharSet :=
  if name = "any" then some CharSet.full
  else if name = "ascii" then some (CharSet.ofRanges [(0, 0x7F)])
  else if name = "assigned" then some unassigned.complement
  else if name = "cn" || name = "unassigned" then some unassigned
  else if name = "c" || name = "other" then
    some (categories ["cc", "cf", "co"] ∪ unassigned)
  else
    match categoryUnions.find? fun (names, _) => names.contains name with
    | some (_, parts) => some (categories parts)
    | none => categoryTable.find? name

/-- The characters of a script, given by its loose name. -/
def script? (name : String) : Option CharSet := scriptTable.find? name

/-- The characters used in a script, given by its loose name. -/
def scriptExtension? (name : String) : Option CharSet :=
  (scriptExtensionTable.find? name).orElse fun _ => script? name

/-- The characters that a single name stands for. Three abbreviations of properties are also those
of categories, and mean the categories. -/
def ofName? (name : List Char) : Option CharSet :=
  let loose := looseName name
  let binary :=
    if ["cf", "sc", "lc"].contains loose then none else binaryTable.find? loose
  binary.orElse fun _ => (category? loose).orElse fun _ => script? loose

def ofValue? (property value : List Char) : Option CharSet :=
  let loose := looseName value
  match looseName property with
  | "gc" | "generalcategory" => category? loose
  | "sc" | "script" => script? loose
  | "scx" | "scriptextensions" => scriptExtension? loose
  | "age" => ageTable.upTo? loose
  | "gcb" | "graphemeclusterbreak" => clusterBreakTable.find? loose
  | "wb" | "wordbreak" => wordBreakTable.find? loose
  | "sb" | "sentencebreak" => sentenceBreakTable.find? loose
  | _ => none

end Property

end TextScopes
