import TextScopes.Text.Basic

/-!
This module contains the state of a match in progress: a place in the text, the groups recorded so
far, and the choices made since the last character was read. A match never returns to the same
choice without reading a character in between, which is why matching ends.
-/

namespace TextScopes.Regex

/-- A place in a text: the character before it, the text behind it, and its offset. -/
structure Cursor where
  prev : Option Char
  rest : Text
  offset : Nat
  deriving DecidableEq, Repr

namespace Cursor

def start (text : Text) : Cursor := ⟨none, text, 0⟩

/-- All places from a given one to the end of the text. -/
def onward.go (prev : Option Char) (offset : Nat) : Text → List Cursor
  | [] => [⟨prev, [], offset⟩]
  | c :: rest => ⟨prev, c :: rest, offset⟩ :: go (some c) (offset + c.utf8Size) rest

def onward (cursor : Cursor) : List Cursor := onward.go cursor.prev cursor.offset cursor.rest

end Cursor

/-- The position of a choice inside an expression, innermost step first. -/
abbrev Address := List Nat

/-- A match in progress. -/
structure Thread where
  cursor : Cursor
  /-- The groups recorded so far, index and offsets, the latest first. -/
  groups : List (Nat × Nat × Nat)
  /-- The choices made since a character was read. -/
  passed : List Address
  deriving DecidableEq, Repr

namespace Thread

def offset (t : Thread) : Nat := t.cursor.offset

def read? (p : Char → Bool) (t : Thread) : Option Thread :=
  match t.cursor.rest with
  | [] => none
  | c :: rest =>
    if p c then some ⟨⟨some c, rest, t.cursor.offset + c.utf8Size⟩, t.groups, []⟩ else none

def readAll? : List Char → Thread → Option Thread
  | [], t => some t
  | c :: chars, t => (t.read? (· == c)).bind (readAll? chars)

def pass (address : Address) (t : Thread) : Thread := { t with passed := address :: t.passed }

def record (index start : Nat) (t : Thread) : Thread :=
  { t with groups := (index, start, t.offset) :: t.groups }

end Thread

/-- A set of offsets, each a bit of a number. -/
structure Offsets where
  bits : Nat
  deriving DecidableEq, Repr

namespace Offsets

instance : EmptyCollection Offsets := ⟨⟨0⟩⟩

def contains (s : Offsets) (offset : Nat) : Bool := s.bits.testBit offset

def insert (s : Offsets) (offset : Nat) : Offsets := ⟨s.bits ||| 1 <<< offset⟩

end Offsets

namespace Thread

/-- Keep the first of several threads at one place. Whatever a later one can still match, the first
one can too. -/
def distinct.go (seen : Offsets) : List Thread → List Thread
  | [] => []
  | t :: rest =>
    if seen.contains t.offset then go seen rest else t :: go (seen.insert t.offset) rest

def distinct (threads : List Thread) : List Thread :=
  match threads with
  | [] => []
  | [t] => [t]
  | _ => distinct.go ∅ threads

end Thread

end TextScopes.Regex
