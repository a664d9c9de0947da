import TextScopes.Builtin.Ini
import TextScopes.Config
import TextScopes.FileName
import TextScopes.Highlight
import TextScopes.Text.Case

/-!
This module contains registries of grammars: they find the grammar for a file by its name or its
first line, and highlight texts by the scope of a grammar.
-/

namespace TextScopes

/-- The form in which extensions and names of files are compared: without dots in front, in small
letters. -/
def normalFileType (fileType : List Char) : String :=
  String.ofList (lower (fileType.dropWhile (· == '.')))

/-- Grammars by their scopes. -/
structure Registry where
  grammars : SortedMap String Grammar
  /-- The scope for each extension or name of files. -/
  fileTypes : SortedMap String String
  mergeAdjacent : Bool
  deriving Inhabited

namespace Registry

def empty : Registry := ⟨∅, ∅, false⟩

instance : EmptyCollection Registry := ⟨empty⟩

/-- Add a grammar in place of any other of its scope. -/
def add (registry : Registry) (grammar : Grammar) : Registry :=
  { registry with
    grammars := registry.grammars.insert grammar.scopeName grammar
    fileTypes := grammar.fileTypes.foldl
      (fun map fileType => map.insert (normalFileType fileType.toList) grammar.scopeName)
      registry.fileTypes }

def builtin : Except Error Registry := do
  let json ← Builtin.loadJson
  let ini ← Builtin.loadIni
  .ok ((empty.add json).add ini)

def applyConfig (registry : Registry) (config : Config) : Registry :=
  { registry with
    fileTypes := config.fileTypes.entries.foldl
      (fun map (fileType, scope) => map.insert (normalFileType fileType.toList) scope)
      registry.fileTypes
    mergeAdjacent := config.mergeAdjacentRuns }

def scopes (registry : Registry) : List String := registry.grammars.keys

def grammar? (registry : Registry) (scope : String) : Option Grammar :=
  registry.grammars.get? scope

/-- The scope for an extension or a name of files. -/
def scopeOf? (registry : Registry) (fileType : List Char) : Option String :=
  registry.fileTypes.get? (normalFileType fileType)

/-- The scope of the grammar for a file: by its name, or else by its extension, as far as these are
text. A scope without a grammar does not count. -/
def detectPath? (registry : Registry) (path : List (Option Char)) : Option String := do
  let name ← FileName.ofPath? path
  let scope ← ((FileName.text? name).bind registry.scopeOf?).orElse fun _ =>
    ((FileName.extension? name).bind FileName.text?).bind registry.scopeOf?
  if registry.grammars.contains scope then some scope else none

def detect? (registry : Registry) (path : String) : Option String :=
  registry.detectPath? (path.toList.map some)

/-- The scope of the first grammar that knows the first line of a text. -/
def detectFirstLine? (registry : Registry) (text : Text) : Option String := do
  let line ← text.firstLine?
  let (scope, _) ← registry.grammars.entries.find? fun (_, grammar) => grammar.matchesFirstLine line
  some scope

def highlight (registry : Registry) (scope : String) (text : Text) : Except Error (List Run) :=
  match registry.grammar? scope with
  | some grammar => .ok (grammar.highlight registry.mergeAdjacent text)
  | none => .error (.unknownGrammar scope)

end Registry

end TextScopes
