import TextScopes.Grammar.Basic

/-!
This module contains the candidates for tokens: all matches of all patterns that a grammar can ever
use, found in the whole text without regard to nesting and put into one order.
-/

namespace TextScopes

inductive Phase where
  | opening
  | matching
  | closing
  deriving DecidableEq, Repr

structure Candidate where
  rule : RuleId
  phase : Phase
  hit : Regex.Hit
  deriving DecidableEq, Repr

namespace Candidate

def start (c : Candidate) : Nat := c.hit.start

def stop (c : Candidate) : Nat := c.hit.stop

def length (c : Candidate) : Nat := c.stop - c.start

def isEmpty (c : Candidate) : Bool := c.start == c.stop

/-- The offsets of a group that took part in the match. -/
def group? (c : Candidate) (index : Nat) : Option (Nat × Nat) := (c.hit.groups[index]?).join

/-- The place among candidates of equal start and length: what closes a region comes first. -/
def rank (c : Candidate) : Nat := if c.phase = .closing then 0 else 1

/-- Whether a candidate may stand before another one: earlier matches come first, then longer ones,
then those that close a region. -/
def le (a b : Candidate) : Bool :=
  a.start < b.start ||
    (a.start == b.start &&
      (b.length < a.length || (a.length == b.length && a.rank ≤ b.rank)))

end Candidate

namespace Rule

/-- The candidates of a rule, those of one pattern after those of another. -/
def candidates (rule : Rule) (id : RuleId) (text : Text) : List Candidate :=
  match rule.kind with
  | .matching regex _ => (regex.hits text).map (⟨id, .matching, ·⟩)
  | .region region =>
    (region.opening.hits text).map (⟨id, .opening, ·⟩) ++
      (region.closing.hits text).map (⟨id, .closing, ·⟩)
  | _ => []

end Rule

namespace Grammar

/-- All candidates in a text, in order. Candidates that are equal in order stand as their rules do
in the scan order. -/
def scan (grammar : Grammar) (text : Text) : List Candidate :=
  (grammar.resolution.scanOrder.flatMap fun id =>
    ((grammar.rule? id).map (·.candidates id text)).getD []).mergeSort Candidate.le

end Grammar

end TextScopes
