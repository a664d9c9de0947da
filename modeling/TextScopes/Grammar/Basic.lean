import TextScopes.Regex.Basic
import TextScopes.SortedMap

/-!
This module contains grammars that are ready for use. The rules of a grammar stand in one list and
refer to one another by their position in it, so that rules can contain themselves.
-/

namespace TextScopes

/-- The position of a rule in the list of all rules. -/
abbrev RuleId := Nat

/-- The scopes of the groups of a pattern, by the number of the group. -/
abbrev CaptureMap := SortedMap Nat String

inductive Include where
  | entry (name : String)
  | root
  deriving DecidableEq, Repr

/-- A stretch of text between two matches. -/
structure Region where
  opening : Regex
  closing : Regex
  contentName : Option String
  beginCaptures : CaptureMap
  endCaptures : CaptureMap
  patterns : List RuleId

inductive RuleKind where
  | matching (regex : Regex) (captures : CaptureMap)
  | region (region : Region)
  | container (patterns : List RuleId)
  | reference (target : Include)

structure Rule where
  name : Option String
  kind : RuleKind

def Rule.region? (rule : Rule) : Option Region :=
  match rule.kind with
  | .region region => some region
  | _ => none

def Rule.children (rule : Rule) : List RuleId :=
  match rule.kind with
  | .region region => region.patterns
  | .container patterns => patterns
  | _ => []

structure Arena where
  /-- All rules; a rule stands behind the rules inside it. -/
  rules : List Rule
  patterns : List RuleId
  repository : SortedMap String RuleId

def Arena.rule? (arena : Arena) (id : RuleId) : Option Rule := arena.rules[id]?

/-- The rules that can match at one level of nesting, in order of preference, each once. -/
structure ActiveSet where
  rules : List RuleId
  deriving DecidableEq, Repr

namespace ActiveSet

def contains (set : ActiveSet) (id : RuleId) : Bool := set.rules.contains id

def length (set : ActiveSet) : Nat := set.rules.length

def isEmpty (set : ActiveSet) : Bool := set.rules.isEmpty

end ActiveSet

/-- The rules that can match, for every level of nesting that can be reached. -/
structure Resolution where
  root : ActiveSet
  /-- The rules inside each region that can be reached. -/
  regions : List (RuleId × ActiveSet)
  /-- All rules that can match anywhere, in the order in which they are found. -/
  scanOrder : List RuleId
  deriving DecidableEq, Repr

def Resolution.region? (resolution : Resolution) (id : RuleId) : Option ActiveSet :=
  resolution.regions.lookup id

structure Grammar where
  scopeName : String
  displayName : Option String
  /-- The extensions and names of files that the grammar is for. -/
  fileTypes : List String
  /-- A pattern for the first line of texts that the grammar is for. -/
  firstLineMatch : Option Regex
  foldingStartMarker : Option String
  foldingStopMarker : Option String
  arena : Arena
  resolution : Resolution

namespace Grammar

def rule? (grammar : Grammar) (id : RuleId) : Option Rule := grammar.arena.rule? id

def ruleCount (grammar : Grammar) : Nat := grammar.arena.rules.length

/-- Whether a first line shows that a text is for this grammar. -/
def matchesFirstLine (grammar : Grammar) (line : Text) : Bool :=
  grammar.firstLineMatch.any (·.isMatch line)

end Grammar

end TextScopes
