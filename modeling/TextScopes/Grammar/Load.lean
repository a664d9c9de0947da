import TextScopes.Document.Json
import TextScopes.Document.Toml
import TextScopes.Grammar.Build

/-!
This module contains the ways to get a grammar: from the text of a JSON document, from a JSON value
without regard to the order of names, and from the text of a TOML document.
-/

namespace TextScopes

namespace GrammarSource

/-- Read a grammar from the text of a JSON document. Faults are met in the order of the text. -/
def ofJson (text : String) : Except Error GrammarSource :=
  (Json.decode (decode .jsonText) text).mapError .json

/-- Read a grammar from a JSON value. Faults are met in the order of names. -/
def ofValue (value : Document) : Except Error GrammarSource :=
  (decode .jsonValue value.sorted).mapError .json

def ofToml (text : String) : Except Error GrammarSource :=
  (Toml.decode (decode .toml) text).mapError .toml

end GrammarSource

namespace Grammar

def ofJson (text : String) : Except Error Grammar := GrammarSource.ofJson text >>= (·.build)

def ofValue (value : Document) : Except Error Grammar := GrammarSource.ofValue value >>= (·.build)

def ofToml (text : String) : Except Error Grammar := GrammarSource.ofToml text >>= (·.build)

end Grammar

end TextScopes
