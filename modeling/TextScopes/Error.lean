import TextScopes.Document.Decode
import TextScopes.Regex.Pattern

/-!
This module contains everything that can go wrong while a grammar is built or a configuration is
read. Once a grammar is built, no text can make it fail.
-/

namespace TextScopes

inductive RulePath where
  /-- The pattern for the first line, which belongs to no rule. -/
  | firstLine
  | entry (name : String)
  | root (index : Nat)
  | child (parent : RulePath) (index : Nat)
  deriving DecidableEq, Repr

def RulePath.text : RulePath → String
  | firstLine => "firstLineMatch"
  | entry name => s!"repository.{name}"
  | root index => s!"patterns[{index}]"
  | child parent index =>
    let before := parent.text
    s!"{before}.patterns[{index}]"

/-- Why the fields of a rule do not go together. -/
inductive Malformation where
  /-- A reference has a pattern or rules of its own. -/
  | includeWithMode
  /-- A rule matches at once and opens a region too. -/
  | matchWithRegion
  | matchWithPatterns
  /-- A rule that matches at once names groups of a region. -/
  | matchWithPhaseCaptures
  | beginWithoutEnd
  | endWithoutBegin
  | containerWithCaptures
  | noMode
  deriving DecidableEq, Repr

def Malformation.text : Malformation → String
  | includeWithMode => "`include` cannot be combined with a matching mode"
  | matchWithRegion => "`match` cannot be combined with `begin`/`end`"
  | matchWithPatterns => "`match` rules cannot have child `patterns`"
  | matchWithPhaseCaptures => "`beginCaptures`/`endCaptures` need a `begin`/`end` pair"
  | beginWithoutEnd => "`begin` without `end`"
  | endWithoutBegin => "`end` without `begin`"
  | containerWithCaptures => "container rules cannot have captures"
  | noMode => "rule needs one of `match`, `begin`/`end`, `patterns` or `include`"

inductive FileFault where
  | notFound
  | notText
  deriving DecidableEq, Repr

inductive TomlFault where
  | malformed
  | data (error : DataError)

inductive Error where
  | unresolvedInclude (target : String)
  | malformedRule (path : RulePath) (reason : Malformation)
  /-- A rule names groups for all patterns and for one of them. -/
  | conflictingCaptures (path : RulePath)
  /-- A rule names a group by something that is no number. -/
  | invalidCaptureIndex (path : RulePath) (key : String)
  | regex (path : RulePath) (fault : Regex.Fault)
  | missingField (name : String)
  | json (error : DataError)
  | toml (fault : TomlFault)
  | file (fault : FileFault)
  | unknownGrammar (scope : String)

/-- The message of an error, if it is fixed by the error alone. -/
def Error.message? : Error → Option String
  | unresolvedInclude target => some s!"unresolved include `{target}`"
  | malformedRule path reason =>
    let (place, text) := (path.text, reason.text)
    some s!"malformed rule at {place}: {text}"
  | conflictingCaptures path =>
    let place := path.text
    some s!"rule at {place} mixes `captures` with `beginCaptures`/`endCaptures`"
  | invalidCaptureIndex path key =>
    let place := path.text
    some s!"invalid capture index `{key}` at {place}"
  | missingField name => some s!"missing required field `{name}`"
  | unknownGrammar scope => some s!"no grammar registered for scope `{scope}`"
  | json error => error.message? .jsonText
  | toml (.data error) => error.message? .toml
  | toml .malformed | regex _ _ | file _ => none

end TextScopes
