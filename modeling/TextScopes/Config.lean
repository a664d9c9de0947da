import TextScopes.Document.Toml
import TextScopes.Error
import TextScopes.Style

/-!
This module contains configurations: which grammars are for which files, and how scopes are shown.
A configuration is written as a TOML document.
-/

namespace TextScopes

structure Config where
  mergeAdjacentRuns : Bool := false
  /-- The scope of the grammar for an extension or a name of files. -/
  fileTypes : SortedMap String String := ∅
  theme : SortedMap String Style := ∅
  deriving DecidableEq, Repr, Inhabited

namespace Config

open Decode

/-- A field of a configuration, which may be left out. -/
def field (name : String) (decode : Document → Decoded α) (store : Config → α → Config) :
    RecordField Config :=
  ⟨name, false, false, fun d c => do .ok (store c (← decode d))⟩

def schema (dialect : Dialect) : Schema Config where
  title := "struct Config"
  fields :=
    [field "merge-adjacent-runs" bool fun c x => { c with mergeAdjacentRuns := x },
      field "file-types" (map string) fun c x => { c with fileTypes := x },
      field "theme" (map (Style.decode dialect)) fun c x => { c with theme := x }]
  closed := true
  initial := {}

def decode (dialect : Dialect) (d : Document) : Decoded Config := (schema dialect).read dialect d

def ofToml (text : String) : Except Error Config :=
  (Toml.decode (decode .toml) text).mapError .toml

/-- Read a configuration from the content of its file, if the file is there. -/
def ofFile (content : Option ByteArray) : Except Error Config :=
  match content with
  | none => .error (.file .notFound)
  | some bytes =>
    match String.fromUTF8? bytes with
    | none => .error (.file .notText)
    | some text => ofToml text

def isDefault (config : Config) : Bool := config = {}

end Config

end TextScopes
