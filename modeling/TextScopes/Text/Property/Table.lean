import TextScopes.Text.CharSet

/-!
This module contains the form in which the values of a character property are listed: each value
with its names, in small letters and without separators, and the characters that have it.
-/

namespace TextScopes

/-- The values of a property: names beside a table of characters. -/
abbrev PropertyTable := List (List String × String)

namespace PropertyTable

def find? (table : PropertyTable) (name : String) : Option CharSet :=
  match table with
  | [] => none
  | (names, chars) :: rest =>
    if names.contains name then some (CharSet.ofTable chars) else find? rest name

/-- The characters listed under a name or under an entry before it. -/
def upTo? (table : PropertyTable) (name : String) : Option CharSet :=
  match table with
  | [] => none
  | (names, chars) :: rest =>
    if names.contains name then some (CharSet.ofTable chars)
    else (upTo? rest name).map (CharSet.ofTable chars ∪ ·)

def all (table : PropertyTable) : CharSet :=
  table.foldl (fun acc (_, chars) => acc ∪ CharSet.ofTable chars) ∅

end PropertyTable

end TextScopes
