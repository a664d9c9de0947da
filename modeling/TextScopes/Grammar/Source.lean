import TextScopes.Document.Decode

/-!
This module contains grammars as they are written: records of optional fields, without any check
that the fields of a rule go together.
-/

namespace TextScopes

structure CaptureSource where
  name : Option String := none
  deriving DecidableEq, Repr, Inhabited

/-- What is written for the groups of a pattern, by the number of the group as written. -/
abbrev CaptureTable := SortedMap String CaptureSource

structure RuleSource where
  name : Option String := none
  matchPattern : Option String := none
  beginPattern : Option String := none
  endPattern : Option String := none
  contentName : Option String := none
  captures : Option CaptureTable := none
  beginCaptures : Option CaptureTable := none
  endCaptures : Option CaptureTable := none
  includeTarget : Option String := none
  patterns : Option (List RuleSource) := none
  deriving Repr, Inhabited

structure GrammarSource where
  scopeName : String := ""
  name : Option String := none
  fileTypes : List String := []
  firstLineMatch : Option String := none
  foldingStartMarker : Option String := none
  foldingStopMarker : Option String := none
  patterns : List RuleSource := []
  repository : SortedMap String RuleSource := ∅
  deriving Repr, Inhabited

namespace CaptureSource

open Decode

def schema : Schema CaptureSource where
  title := "struct RawCapture"
  fields := [⟨"name", false, true, fun d c => do .ok { c with name := ← option string d }⟩]
  closed := false
  initial := {}

def decode (dialect : Dialect) (d : Document) : Decoded CaptureSource := schema.read dialect d

end CaptureSource

namespace RuleSource

open Decode

/-- An optional field of a rule, which must not be left out of an array. -/
def field (name : String) (decode : Document → Decoded α)
    (store : RuleSource → Option α → RuleSource) : RecordField RuleSource :=
  ⟨name, false, true, fun d r => do .ok (store r (← option decode d))⟩

/-- The written form of a rule, given how the rules inside are read. -/
def schema (dialect : Dialect) (child : Document → Decoded RuleSource) : Schema RuleSource where
  title := "struct RawRule"
  fields :=
    let table : Document → Decoded CaptureTable := map (CaptureSource.decode dialect)
    [field "name" string fun r x => { r with name := x },
      field "match" string fun r x => { r with matchPattern := x },
      field "begin" string fun r x => { r with beginPattern := x },
      field "end" string fun r x => { r with endPattern := x },
      field "contentName" string fun r x => { r with contentName := x },
      field "captures" table fun r x => { r with captures := x },
      field "beginCaptures" table fun r x => { r with beginCaptures := x },
      field "endCaptures" table fun r x => { r with endCaptures := x },
      field "include" string fun r x => { r with includeTarget := x },
      field "patterns" (list child) fun r x => { r with patterns := x }]
  closed := false
  initial := {}

/-- Read a rule nested at most so many levels deep. -/
def decodeNested (dialect : Dialect) : (levels : Nat) → Document → Decoded RuleSource
  | 0, d => .error (d.mismatch "struct RawRule")
  | levels + 1, d => (schema dialect (decodeNested dialect levels)).read dialect d

def decode (dialect : Dialect) (d : Document) : Decoded RuleSource :=
  decodeNested dialect d.depth d

end RuleSource

namespace GrammarSource

open Decode

/-- An optional field of a grammar, which must not be left out of an array. -/
def field (name : String) (store : GrammarSource → Option String → GrammarSource) :
    RecordField GrammarSource :=
  ⟨name, false, true, fun d g => do .ok (store g (← option string d))⟩

def schema (dialect : Dialect) : Schema GrammarSource where
  title := "struct RawGrammar"
  fields :=
    let rule : Document → Decoded RuleSource := RuleSource.decode dialect
    [⟨"scopeName", true, true, fun d g => do .ok { g with scopeName := ← string d }⟩,
      field "name" fun g x => { g with name := x },
      ⟨"fileTypes", false, false, fun d g => do .ok { g with fileTypes := ← list string d }⟩,
      field "firstLineMatch" fun g x => { g with firstLineMatch := x },
      field "foldingStartMarker" fun g x => { g with foldingStartMarker := x },
      field "foldingStopMarker" fun g x => { g with foldingStopMarker := x },
      ⟨"patterns", true, true, fun d g => do .ok { g with patterns := ← list rule d }⟩,
      ⟨"repository", false, false, fun d g => do .ok { g with repository := ← map rule d }⟩]
  closed := false
  initial := {}

def decode (dialect : Dialect) (d : Document) : Decoded GrammarSource :=
  (schema dialect).read dialect d

end GrammarSource

end TextScopes
