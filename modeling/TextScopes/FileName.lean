/-!
This module contains the parts of a path that tell what a file is: its name and its extension. A
path need not be text: it is a list of characters in which `none` stands for a byte of no character.
-/

namespace TextScopes.FileName

/-- The components of a path, the last one first. -/
def components.go (done : List (List (Option Char))) (component : List (Option Char)) :
    List (Option Char) → List (List (Option Char))
  | [] => component.reverse :: done
  | c :: rest =>
    if c = some '/' then go (component.reverse :: done) [] rest else go done (c :: component) rest

/-- The components of a path, the last one first. Components that lead nowhere do not count. -/
def components (path : List (Option Char)) : List (List (Option Char)) :=
  (components.go [] [] path).filter fun component => component ≠ [] && component ≠ [some '.']

def ofPath? (path : List (Option Char)) : Option (List (Option Char)) :=
  match components path with
  | [] => none
  | name :: _ => if name = [some '.', some '.'] then none else some name

/-- What stands behind the last dot of a name. A dot at the start of a name does not count. -/
def extension? (name : List (Option Char)) : Option (List (Option Char)) :=
  let after := name.reverse.takeWhile (· != some '.')
  match name.reverse.dropWhile (· != some '.') with
  | [] | [some '.'] => none
  | _ => some after.reverse

/-- The characters of a name or an extension that is text. -/
def text? (name : List (Option Char)) : Option (List Char) := name.mapM id

end TextScopes.FileName
