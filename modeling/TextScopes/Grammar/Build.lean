import TextScopes.Grammar.Resolve
import TextScopes.Grammar.Source
import TextScopes.Text.Blank

/-!
This module contains the construction of a grammar from its written form. Every pattern is compiled,
every rule must do exactly one thing, and every include that can be reached must resolve. The first
violation in the order of construction is the one reported.
-/

namespace TextScopes

def compileAt (path : RulePath) (pattern : String) : Except Error Regex :=
  (Regex.compile pattern).mapError (.regex path)

namespace CaptureTable

/-- The number that names a group: digits, with a plus sign and blanks allowed around them. -/
def index? (key : String) : Option Nat :=
  let digits :=
    match trimBlanks key.toList with
    | '+' :: rest => rest
    | chars => chars
  let value := digits.foldl (fun n c => 10 * n + (c.toNat - 48)) 0
  if digits.isEmpty || !digits.all Char.isDigit || Nat.pow 2 64 ≤ value then none else some value

/-- Read the written groups in the order of their keys. -/
def readEntries (path : RulePath) (map : CaptureMap) :
    List (String × CaptureSource) → Except Error CaptureMap
  | [] => .ok map
  | (key, capture) :: rest =>
    match index? key with
    | none => .error (.invalidCaptureIndex path key)
    | some index =>
      readEntries path (capture.name.elim map fun name => map.insert index name) rest

/-- The scopes of groups from their written form. A group without a scope is checked all the
same. -/
def read (path : RulePath) (table : Option CaptureTable) : Except Error CaptureMap :=
  match table with
  | none => .ok ∅
  | some table => readEntries path ∅ table.entries

end CaptureTable

/-- What an include stands for. Only rules of the same grammar can be included. -/
def Include.read (target : String) : Except Error Include :=
  match target.toList with
  | '#' :: name => .ok (.entry (String.ofList name))
  | _ =>
    if target = "$self" || target = "$base" then .ok .root else .error (.unresolvedInclude target)

/-- What a rule does, as far as its own fields show, before anything in it is compiled. -/
inductive RuleMode where
  | reference (target : String)
  | matching (pattern : String)
  | region (opening closing : String)
  | container
  deriving DecidableEq, Repr

namespace RuleSource

/-- Whether a rule names groups of the patterns of a region. -/
def hasPhaseCaptures (rule : RuleSource) : Bool :=
  rule.beginCaptures.isSome || rule.endCaptures.isSome

/-- What a rule does. Its fields must show exactly one thing. -/
def mode (path : RulePath) (rule : RuleSource) : Except Error RuleMode :=
  let malformed (reason : Malformation) : Except Error RuleMode :=
    .error (.malformedRule path reason)
  if rule.captures.isSome && rule.hasPhaseCaptures then .error (.conflictingCaptures path)
  else
    match rule.includeTarget, rule.matchPattern, rule.beginPattern, rule.endPattern with
    | some target, pattern, opening, closing =>
      if pattern.isSome || opening.isSome || closing.isSome || rule.patterns.isSome then
        malformed .includeWithMode
      else .ok (.reference target)
    | none, some pattern, opening, closing =>
      if opening.isSome || closing.isSome then malformed .matchWithRegion
      else if rule.patterns.isSome then malformed .matchWithPatterns
      else if rule.hasPhaseCaptures then malformed .matchWithPhaseCaptures
      else .ok (.matching pattern)
    | none, none, some opening, some closing => .ok (.region opening closing)
    | none, none, some _, none => malformed .beginWithoutEnd
    | none, none, none, some _ => malformed .endWithoutBegin
    | none, none, none, none =>
      if rule.patterns.isNone then malformed .noMode
      else if rule.captures.isSome || rule.hasPhaseCaptures then malformed .containerWithCaptures
      else .ok .container

def toRegion (path : RulePath) (rule : RuleSource) (opening closing : String)
    (patterns : List RuleId) : Except Error Region := do
  let (beginCaptures, endCaptures) ←
    match rule.captures with
    | some shared => do
      let map ← CaptureTable.read path (some shared)
      .ok (map, map)
    | none => do
      let beginMap ← CaptureTable.read path rule.beginCaptures
      let endMap ← CaptureTable.read path rule.endCaptures
      .ok (beginMap, endMap)
  let opening ← compileAt path opening
  let closing ← compileAt path closing
  .ok ⟨opening, closing, rule.contentName, beginCaptures, endCaptures, patterns⟩

def toKind (path : RulePath) (rule : RuleSource) (mode : RuleMode) (patterns : List RuleId) :
    Except Error RuleKind :=
  match mode with
  | .reference target => (Include.read target).map .reference
  | .matching pattern => do
    let regex ← compileAt path pattern
    let captures ← CaptureTable.read path rule.captures
    .ok (.matching regex captures)
  | .region opening closing => (rule.toRegion path opening closing patterns).map .region
  | .container => .ok (.container patterns)

mutual

/-- Add a rule to a list of rules, behind the rules inside it. -/
def addTo (rules : List Rule) (path : RulePath) : RuleSource → Except Error (List Rule × RuleId)
  | ⟨name, matchPattern, beginPattern, endPattern, contentName, captures, beginCaptures,
      endCaptures, includeTarget, patterns⟩ => do
    let rule : RuleSource := ⟨name, matchPattern, beginPattern, endPattern, contentName, captures,
      beginCaptures, endCaptures, includeTarget, patterns⟩
    let mode ← rule.mode path
    let (rules, ids) ←
      match patterns with
      | some children => addAllTo rules (.child path) 0 children
      | none => .ok (rules, [])
    let kind ← rule.toKind path mode ids
    .ok (rules ++ [⟨name, kind⟩], rules.length)
termination_by structural rule => rule

/-- Add several rules to a list of rules, the first one at a place with the given index. -/
def addAllTo (rules : List Rule) (path : Nat → RulePath) (index : Nat) :
    List RuleSource → Except Error (List Rule × List RuleId)
  | [] => .ok (rules, [])
  | rule :: rest => do
    let (rules, id) ← addTo rules (path index) rule
    let (rules, ids) ← addAllTo rules path (index + 1) rest
    .ok (rules, id :: ids)
termination_by structural rules => rules

end

end RuleSource

namespace GrammarSource

/-- Add the entries of a repository to a list of rules, in the order of their names. -/
def addEntries (rules : List Rule) (ids : SortedMap String RuleId) :
    List (String × RuleSource) → Except Error (List Rule × SortedMap String RuleId)
  | [] => .ok (rules, ids)
  | (name, rule) :: rest => do
    let (rules, id) ← rule.addTo rules (.entry name)
    addEntries rules (ids.insert name id) rest

/-- The rules of a grammar: those of the repository, then those for all text. -/
def arena (source : GrammarSource) : Except Error Arena := do
  let (rules, repository) ← addEntries [] ∅ source.repository.entries
  let (rules, patterns) ← RuleSource.addAllTo rules .root 0 source.patterns
  .ok ⟨rules, patterns, repository⟩

def build (source : GrammarSource) : Except Error Grammar := do
  if (trimBlanks source.scopeName.toList).isEmpty then .error (.missingField "scopeName")
  else
    let firstLineMatch ←
      match source.firstLineMatch with
      | some pattern => (compileAt .firstLine pattern).map some
      | none => .ok none
    let arena ← source.arena
    let resolution ← arena.resolve
    .ok
      { scopeName := source.scopeName
        displayName := source.name
        fileTypes := source.fileTypes
        firstLineMatch := firstLineMatch
        foldingStartMarker := source.foldingStartMarker
        foldingStopMarker := source.foldingStopMarker
        arena := arena
        resolution := resolution }

end GrammarSource

end TextScopes
