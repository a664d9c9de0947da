import TextScopes.Regex.Expr

/-!
This module contains a bound on the memory that a pattern may ask for. A pattern is charged for the
automaton that recognises it byte by byte, repeated bodies as often as they are repeated, so that a
short pattern with large counts is refused before anything is built.
-/

namespace TextScopes.Regex

namespace Expr

/-- The bytes charged for one state. -/
def stateSize : Nat := 32

/-- The bytes charged for one transition of a state that tells several byte ranges apart. -/
def rangeSize : Nat := 8

/-- The bytes charged for one way out of a state that reads nothing. -/
def edgeSize : Nat := 4

def utf8Bytes (n : Nat) : List Nat :=
  if n < 0x80 then [n]
  else if n < 0x800 then [0xC0 + n / 0x40, 0x80 + n % 0x40]
  else if n < 0x10000 then [0xE0 + n / 0x1000, 0x80 + n / 0x40 % 0x40, 0x80 + n % 0x40]
  else
    [0xF0 + n / 0x40000, 0x80 + n / 0x1000 % 0x40, 0x80 + n / 0x40 % 0x40, 0x80 + n % 0x40]

/-- Where to cut a range so that one part has encodings of one length and full ranges of all but
its first varying byte: the last code point of the lower part. -/
def cut? (low high : Nat) : Option Nat :=
  let atLength := [0x7F, 0x7FF, 0xD7FF, 0xDFFF, 0xFFFF].find? fun n => low ≤ n && n < high
  let atBlock (width : Nat) : Option Nat :=
    if low / width = high / width then none
    else if low % width ≠ 0 then some (low / width * width + (width - 1))
    else if high % width ≠ width - 1 then some (high / width * width - 1)
    else none
  if high < 0x80 then none
  else
    atLength.orElse fun _ => (atBlock 0x40).orElse fun _ =>
      (atBlock 0x1000).orElse fun _ => atBlock 0x40000

/-- The sequences of byte ranges that encode a range of code points. A range is cut at most as
often as `fuel` says, and sixteen cuts in a row are always enough. -/
def byteRanges : (fuel low high : Nat) → List (List (Nat × Nat))
  | 0, _, _ => []
  | fuel + 1, low, high =>
    match cut? low high with
    | some mid => byteRanges fuel low mid ++ byteRanges fuel (mid + 1) high
    | none =>
      if 0xD800 ≤ low && high ≤ 0xDFFF then []
      else [(utf8Bytes low).zip (utf8Bytes high)]

/-- The number of elements that two lists do not share at their beginning, counted on the second. -/
def unshared [BEq α] : List α → List α → Nat
  | a :: as, b :: bs => if a == b then unshared as bs else (b :: bs).length
  | _, bs => bs.length

/-- The size of the tree of some sorted sequences, where equal beginnings are shared. -/
def treeSize [BEq α] : (previous : List α) → List (List α) → Nat
  | _, [] => 0
  | previous, next :: rest => unshared previous next + treeSize next rest

def setSize (chars : CharSet) : Nat :=
  if chars.isEmpty then stateSize
  else if chars.isAscii then 2 * stateSize + chars.ranges.length * rangeSize
  else
    let sequences := chars.ranges.flatMap fun (low, high) => byteRanges 16 low high
    (2 + treeSize [] sequences) * stateSize + sequences.length * edgeSize

mutual

/-- The bytes charged for an expression. -/
def size : Expr → Nat
  | empty | look _ => stateSize
  | literal chars => (chars.map Char.utf8Size).sum * stateSize
  | set chars => setSize chars
  | group _ body => size body + 2 * stateSize
  | concat parts => sizeSum parts
  | alternation branches => sizeSum branches + 2 * stateSize + branches.length * edgeSize
  | repetition least most _ body =>
    let choice := stateSize + 2 * edgeSize
    match most with
    | some m => max least 1 * stateSize + least * size body + (m - least) * (size body + choice)
    | none => max least 1 * size body + 2 * choice
termination_by structural e => e

def sizeSum : List Expr → Nat
  | [] => 0
  | e :: es => size e + sizeSum es
termination_by structural es => es

end

/-- The most bytes that a pattern may be charged. -/
def sizeLimit : Nat := 10 * Nat.pow 2 20

end Expr

end TextScopes.Regex
