/-!
This module contains sets of characters as sorted lists of code point ranges, with the set
operations that character classes are made of. `CharSet.ofTable` reads the compact form in which
the property tables are written.
-/

namespace TextScopes

/-- A set of characters: ranges of code points (both ends included) in ascending order, with a gap
between any two. -/
structure CharSet where
  ranges : List (Nat × Nat)
  deriving DecidableEq, Repr

namespace CharSet

def maxPoint : Nat := 0x10FFFF

def empty : CharSet := ⟨[]⟩

def full : CharSet := ⟨[(0, maxPoint)]⟩

instance : EmptyCollection CharSet := ⟨empty⟩

def covers : List (Nat × Nat) → Nat → Bool
  | [], _ => false
  | (low, high) :: rest, n => if n < low then false else if n ≤ high then true else covers rest n

def contains (s : CharSet) (c : Char) : Bool := covers s.ranges c.toNat

/-- Add one range, joining it with every range that it touches. -/
def insertRange (low high : Nat) : List (Nat × Nat) → List (Nat × Nat)
  | [] => [(low, high)]
  | (a, b) :: rest =>
    if high + 1 < a then (low, high) :: (a, b) :: rest
    else if b + 1 < low then (a, b) :: insertRange low high rest
    else insertRange (min low a) (max high b) rest

def range (low high : Char) : CharSet := ⟨[(low.toNat, high.toNat)]⟩

def singleton (c : Char) : CharSet := range c c

def ofRanges (ranges : List (Nat × Nat)) : CharSet :=
  ⟨ranges.foldl (fun acc (low, high) => insertRange low high acc) []⟩

def ofChars (chars : List Char) : CharSet := ofRanges (chars.map fun c => (c.toNat, c.toNat))

def union (s t : CharSet) : CharSet :=
  ⟨t.ranges.foldl (fun acc (low, high) => insertRange low high acc) s.ranges⟩

instance : Union CharSet := ⟨union⟩

/-- The gaps between ranges, from a first code point on. -/
def gaps (first : Nat) : List (Nat × Nat) → List (Nat × Nat)
  | [] => if first ≤ maxPoint then [(first, maxPoint)] else []
  | (low, high) :: rest =>
    if first < low then (first, low - 1) :: gaps (high + 1) rest else gaps (high + 1) rest

def complement (s : CharSet) : CharSet := ⟨gaps 0 s.ranges⟩

def clip (low high : Nat) : List (Nat × Nat) → List (Nat × Nat)
  | [] => []
  | (a, b) :: rest =>
    if b < low then clip low high rest
    else if high < a then []
    else (max low a, min high b) :: clip low high rest

def inter (s t : CharSet) : CharSet := ⟨s.ranges.flatMap fun (low, high) => clip low high t.ranges⟩

instance : Inter CharSet := ⟨inter⟩

def diff (s t : CharSet) : CharSet := s ∩ t.complement

instance : SDiff CharSet := ⟨diff⟩

def symmDiff (s t : CharSet) : CharSet := (s \ t) ∪ (t \ s)

def isEmpty (s : CharSet) : Bool := s.ranges.isEmpty

def isAscii (s : CharSet) : Bool := s.ranges.all fun (_, high) => high < 0x80

/-- The member of a set that has exactly one. -/
def toChar? (s : CharSet) : Option Char :=
  match s.ranges with
  | [(low, high)] => if low = high then some (Char.ofNat low) else none
  | _ => none

def digit? (c : Char) : Option Nat :=
  if '0' ≤ c ∧ c ≤ '9' then some (c.toNat - 48)
  else if 'A' ≤ c ∧ c ≤ 'F' then some (c.toNat - 55)
  else none

/-- Read a table, given the start of the range and the number that are being read. -/
def ofTable.go (first value : Option Nat) (acc : List (Nat × Nat)) : List Char → List (Nat × Nat)
  | [] => (value.elim acc fun v => (first.getD v, v) :: acc).reverse
  | c :: rest =>
    match digit? c with
    | some d => go first (some (16 * value.getD 0 + d)) acc rest
    | none =>
      if c = '-' then go value none acc rest
      else go none none (value.elim acc fun v => (first.getD v, v) :: acc) rest

/-- The set that a table describes: hexadecimal code points and ranges such as `41-5A 5F`, in
ascending order and separated by blanks. -/
def ofTable (table : String) : CharSet := ⟨ofTable.go none none [] table.toList⟩

end CharSet

end TextScopes
