import TextScopes.Regex.Match
import TextScopes.Regex.Parser

/-!
This module contains compiled patterns and the search for their matches. A match is the preferred
one among those that begin at the first possible place. Matches are searched from left to right,
each from the end of the one before; an empty match right behind another one counts.
-/

namespace TextScopes

structure Regex where
  pattern : String
  expr : Regex.Expr

namespace Regex

structure Hit where
  start : Nat
  stop : Nat
  /-- The offsets of each group that took part, beginning with the whole match. -/
  groups : List (Option (Nat × Nat))
  deriving DecidableEq, Repr

def compile (pattern : String) : Except Fault Regex :=
  (parse pattern.toList).map fun expr => ⟨pattern, expr⟩

/-- The number of groups, counting the whole match. -/
def groupCount (re : Regex) : Nat := re.expr.groupCount

def Thread.hit (start groupCount : Nat) (t : Thread) : Hit where
  start := start
  stop := t.offset
  groups :=
    some (start, t.offset) :: (List.range (groupCount - 1)).map fun i => t.groups.lookup (i + 1)

def matchAt? (re : Regex) (cursor : Cursor) : Option Hit :=
  ((ends re.expr [] ⟨cursor, [], []⟩).head?).map (Thread.hit cursor.offset re.groupCount)

/-- The matches that begin at the given places, which are in order, at or behind an offset. -/
def hits.go (re : Regex) (from_ : Nat) : List Cursor → List Hit
  | [] => []
  | cursor :: cursors =>
    if cursor.offset < from_ then go re from_ cursors
    else
      match re.matchAt? cursor with
      | some hit => hit :: go re hit.stop cursors
      | none => go re from_ cursors

/-- All matches in a text, from left to right. -/
def hits (re : Regex) (text : Text) : List Hit := hits.go re 0 (Cursor.start text).onward

def isMatch (re : Regex) (text : Text) : Bool :=
  (Cursor.start text).onward.any fun cursor => (re.matchAt? cursor).isSome

end Regex

end TextScopes
