import TextScopes.Span
import TextScopes.Text.Basic

/-!
This module contains runs: pieces of a text, one after the other, each with its scopes. Runs are
made from spans by `flatten`, whatever the spans are like, and neighbours with the same scopes are
joined by `mergeRuns`.
-/

namespace TextScopes

structure Run where
  scopes : ScopeStack
  value : Text
  deriving DecidableEq, Repr

def runOf (text : Text) (start stop : Nat) (scopes : ScopeStack) : List Run :=
  if start < stop then ((text.slice? start stop).map (⟨scopes, ·⟩)).toList else []

/-- A place where runs end: the offset, and the scopes up to there. -/
abbrev Opened := Nat × ScopeStack

structure Flattening where
  /-- The offset up to which there are runs. -/
  cursor : Nat
  /-- The spans that go on here, innermost first. -/
  opened : List Opened
  /-- The runs so far, those of the latest step first. -/
  runs : List (List Run)

namespace Flattening

def closeUpTo (text : Text) (start : Nat) (cursor : Nat) (runs : List (List Run)) :
    List Opened → Flattening
  | [] => ⟨cursor, [], runs⟩
  | (stop, scopes) :: rest =>
    if start < stop then ⟨cursor, (stop, scopes) :: rest, runs⟩
    else closeUpTo text start (max cursor stop) (runOf text cursor stop scopes :: runs) rest

def closeAll (text : Text) (cursor : Nat) (runs : List (List Run)) :
    List Opened → List (List Run)
  | [] => runs
  | (stop, scopes) :: rest =>
    closeAll text (max cursor stop) (runOf text cursor stop scopes :: runs) rest

/-- Open a span, behind closing the spans before it. Its offsets are moved back to the starts of
characters and into what its parent leaves of the text. -/
def step (text : Text) (bottom : Opened) (state : Flattening) (span : Span) : Flattening :=
  let state := closeUpTo text span.start state.cursor state.runs state.opened
  let (parentStop, parentScopes) := state.opened.head?.getD bottom
  let start := min (max (text.floor span.start) state.cursor) parentStop
  let stop := min (max (text.floor span.stop) start) parentStop
  if start < stop then
    ⟨start, (stop, span.scopes) :: state.opened,
      runOf text state.cursor start parentScopes :: state.runs⟩
  else state

end Flattening

/-- The runs of a text with given spans, which are best in the order of `Span.le`. Text that no span
covers has the default scopes. -/
def flatten (text : Text) (spans : List Span) (defaultScopes : ScopeStack) : List Run :=
  let bottom : Opened := (text.size, defaultScopes)
  let state := spans.foldl (Flattening.step text bottom) ⟨0, [], []⟩
  (Flattening.closeAll text state.cursor state.runs (state.opened ++ [bottom])).reverse.flatten

/-- The state of merging: the runs so far, the latest first; the offset of the latest one; and the
offset behind it. -/
structure Merging where
  merged : List Run
  lastStart : Nat
  offset : Nat

/-- The piece of the text that two neighbouring runs make up. There is none if they are not pieces
of the text at their places. -/
def joined? (text : Text) (lastStart stop : Nat) (last next : Run) : Option Text :=
  if last.scopes = next.scopes then
    (text.slice? lastStart stop).filter fun piece =>
      last.value.isPrefixOf piece && next.value.isSuffixOf piece
  else none

/-- Add a run, joining it with the one before if both have the same scopes. -/
def Merging.step (text : Text) (state : Merging) (run : Run) : Merging :=
  let stop := state.offset + run.value.size
  match state.merged with
  | last :: before =>
    match joined? text state.lastStart stop last run with
    | some piece => ⟨⟨last.scopes, piece⟩ :: before, state.lastStart, stop⟩
    | none => ⟨run :: last :: before, state.offset, stop⟩
  | [] => ⟨[run], state.offset, stop⟩

/-- Join neighbouring runs with the same scopes. The runs should make up the text; a run that does
not stays as it is. -/
def mergeRuns (text : Text) (runs : List Run) : List Run :=
  (runs.foldl (Merging.step text) ⟨[], 0, 0⟩).merged.reverse

end TextScopes
