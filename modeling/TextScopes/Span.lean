/-!
This module contains spans: stretches of a text with the scopes that hold there.
-/

namespace TextScopes

/-- Scopes from the innermost to the outermost. -/
abbrev ScopeStack := List String

structure Span where
  scopes : ScopeStack
  start : Nat
  stop : Nat
  deriving DecidableEq, Repr

namespace Span

/-- The number of bytes; none if the offsets are in the wrong order. -/
def length (span : Span) : Nat := span.stop - span.start

def isEmpty (span : Span) : Bool := span.stop ≤ span.start

def contains (span other : Span) : Bool := span.start ≤ other.start && other.stop ≤ span.stop

/-- Whether a span may stand before another one: earlier spans come first, then longer ones, then
those with fewer scopes. -/
def le (a b : Span) : Bool :=
  a.start < b.start ||
    (a.start == b.start &&
      (b.stop < a.stop || (a.stop == b.stop && a.scopes.length ≤ b.scopes.length)))

end Span

end TextScopes
