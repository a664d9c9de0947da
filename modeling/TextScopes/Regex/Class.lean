import TextScopes.Regex.Pattern

/-!
This module contains character classes: sets of characters written between brackets, which may hold
ranges, escapes, named ASCII classes, other classes, and operations on all of these.
-/

namespace TextScopes.Regex

inductive ClassOp where
  /-- `&&`: characters of both parts. -/
  | inter
  /-- `--`: characters of the first part alone. -/
  | diff
  /-- `~~`: characters of exactly one part. -/
  | symmDiff
  deriving DecidableEq, Repr

def ClassOp.apply (op : ClassOp) (a b : CharSet) : CharSet :=
  match op with
  | inter => a ∩ b
  | diff => a \ b
  | symmDiff => a.symmDiff b

structure OpenClass where
  negated : Bool
  /-- The part before the last operation, its depth, and the operation. -/
  pending : Option (CharSet × Nat × ClassOp)
  /-- The characters since the last operation. -/
  chars : CharSet
  /-- The number of items since the last operation. -/
  count : Nat
  /-- The depth of the deepest item since the last operation. -/
  depth : Nat

namespace OpenClass

def add (chars : CharSet) (depth : Nat) (cls : OpenClass) : OpenClass :=
  { cls with chars := cls.chars ∪ chars, count := cls.count + 1, depth := max cls.depth depth }

/-- The characters of an open class so far, and their depth. -/
def value (flags : Flags) (cls : OpenClass) : CharSet × Nat :=
  let depth := if cls.count ≤ 1 then cls.depth else cls.depth + 1
  match cls.pending with
  | none => (cls.chars, depth)
  | some (left, leftDepth, op) =>
    (op.apply (flags.fold left) (flags.fold cls.chars), max leftDepth depth + 1)

def operate (flags : Flags) (op : ClassOp) (cls : OpenClass) : OpenClass :=
  let (chars, depth) := cls.value flags
  { cls with pending := some (chars, depth, op), chars := ∅, count := 0, depth := 0 }

def close (flags : Flags) (cls : OpenClass) : Except Fault (CharSet × Nat) := do
  let (chars, depth) := cls.value flags
  let chars ← flags.negate cls.negated (flags.fold chars)
  .ok (chars, depth + 1)

end OpenClass

def asciiClass? (name : List Char) : Option CharSet :=
  let letters := [(0x41, 0x5A), (0x61, 0x7A)]
  match String.ofList name with
  | "alnum" => some (CharSet.ofRanges ((0x30, 0x39) :: letters))
  | "alpha" => some (CharSet.ofRanges letters)
  | "ascii" => some (CharSet.ofRanges [(0, 0x7F)])
  | "blank" => some (CharSet.ofRanges [(0x9, 0x9), (0x20, 0x20)])
  | "cntrl" => some (CharSet.ofRanges [(0, 0x1F), (0x7F, 0x7F)])
  | "digit" => some asciiDigits
  | "graph" => some (CharSet.ofRanges [(0x21, 0x7E)])
  | "lower" => some (CharSet.ofRanges [(0x61, 0x7A)])
  | "print" => some (CharSet.ofRanges [(0x20, 0x7E)])
  | "punct" => some (CharSet.ofRanges [(0x21, 0x2F), (0x3A, 0x40), (0x5B, 0x60), (0x7B, 0x7E)])
  | "space" => some asciiBlanks
  | "upper" => some (CharSet.ofRanges [(0x41, 0x5A)])
  | "word" => some asciiWordChars
  | "xdigit" => some (CharSet.ofRanges [(0x30, 0x39), (0x41, 0x46), (0x61, 0x66)])
  | _ => none

/-- Read a named ASCII class behind its first bracket: whether it is negated, and its characters.
Where there is none, the bracket opens a nested class. -/
def namedClass? (chars : List Char) : Option (Bool × CharSet × List Char) :=
  match chars with
  | ':' :: rest =>
    let (negated, rest) :=
      match rest with
      | '^' :: rest => (true, rest)
      | rest => (false, rest)
    let name := rest.takeWhile (· != ':')
    match rest.dropWhile (· != ':') with
    | ':' :: ']' :: left => (asciiClass? name).map fun chars => (negated, chars, left)
    | _ => none
  | _ => none

/-- The first character that counts, for looking ahead of a hyphen. In a comment the first character
that is not blank counts. -/
def peekSpaced (flags : Flags) (chars : List Char) : Option Char :=
  if flags.extended then
    let counts (chars : List Char) : List Char := chars.dropWhile isBlank
    match counts chars with
    | '#' :: rest => (counts rest).head?.orElse fun _ => chars.head?
    | c :: _ => some c
    | [] => chars.head?
  else chars.head?

/-- The hyphens at the start of a class, which stand for themselves. -/
def leadingHyphens (flags : Flags) : (most : Nat) → List Char → Nat × List Char
  | most + 1, '-' :: rest =>
    let (count, left) := leadingHyphens flags most (flags.skip rest)
    (count + 1, left)
  | _, chars => (0, chars)

/-- Open a class behind its bracket. Hyphens, or else a closing bracket, may come first and stand
for themselves. -/
def openClass (flags : Flags) (chars : List Char) : OpenClass × List Char :=
  let (negated, chars) :=
    match flags.skip chars with
    | '^' :: rest => (true, flags.skip rest)
    | rest => (false, rest)
  let (hyphens, chars) := leadingHyphens flags chars.length chars
  let cls : OpenClass :=
    ⟨negated, none, if hyphens = 0 then ∅ else CharSet.singleton '-', hyphens, 0⟩
  match chars with
  | ']' :: rest =>
    if hyphens = 0 then (cls.add (CharSet.singleton ']') 0, flags.skip rest) else (cls, chars)
  | _ => (cls, chars)

def classPrimitive (flags : Flags) (chars : List Char) : Except Fault (Escape × List Char) :=
  match chars with
  | [] => .error .unclosedClass
  | '\\' :: rest => escape flags rest
  | c :: rest => .ok (.char c false, rest)

def classChar (flags : Flags) (item : Escape) : Except Fault Char :=
  match item with
  | .char c _ => if flags.unicode || c.toNat < 0x80 then .ok c else .error .partialCharacter
  | _ => .error .badClassItem

def classItem (flags : Flags) (item : Escape) : Except Fault CharSet :=
  match item with
  | .set chars => .ok chars
  | .look _ => .error .badClassItem
  | .char _ _ => (classChar flags item).map CharSet.singleton

/-- Read an item or a range of items. A hyphen in front of a closing bracket or of another hyphen
makes no range. -/
def classRange (flags : Flags) (chars : List Char) : Except Fault (CharSet × List Char) := do
  let (first, chars) ← classPrimitive flags chars
  match flags.skip chars with
  | [] => .error .unclosedClass
  | '-' :: rest =>
    let next := peekSpaced flags rest
    if next == some ']' || next == some '-' then do
      .ok (← classItem flags first, '-' :: rest)
    else
      match flags.skip rest with
      | [] => .error .unclosedClass
      | rest => do
        let (last, left) ← classPrimitive flags rest
        let low ← classChar flags first
        let high ← classChar flags last
        if low ≤ high then .ok (CharSet.range low high, left) else .error .badClassItem
  | rest => do .ok (← classItem flags first, rest)

/-- Read the rest of a class, and the classes around it. Every round reads a character. -/
def classItems (flags : Flags) : (rounds : Nat) → OpenClass → List OpenClass → List Char →
    Except Fault (CharSet × Nat × List Char)
  | 0, _, _, _ => .error .unclosedClass
  | rounds + 1, cls, outer, chars =>
    match flags.skip chars with
    | [] => .error .unclosedClass
    | '[' :: rest =>
      match namedClass? rest with
      | some (negated, found, left) => do
        let found ← flags.negate negated (flags.fold found)
        classItems flags rounds (cls.add found 0) outer left
      | none =>
        let (inner, left) := openClass flags rest
        classItems flags rounds inner (cls :: outer) left
    | ']' :: rest => do
      let (chars, depth) ← cls.close flags
      match outer with
      | [] => .ok (chars, depth, rest)
      | parent :: outer => classItems flags rounds (parent.add chars depth) outer rest
    | '&' :: '&' :: rest => classItems flags rounds (cls.operate flags .inter) outer rest
    | '-' :: '-' :: rest => classItems flags rounds (cls.operate flags .diff) outer rest
    | '~' :: '~' :: rest => classItems flags rounds (cls.operate flags .symmDiff) outer rest
    | rest => do
      let (found, left) ← classRange flags rest
      classItems flags rounds (cls.add found 0) outer left

/-- Read a class behind its first bracket: its characters and how deep it is nested. -/
def charClass (flags : Flags) (chars : List Char) : Except Fault (CharSet × Nat × List Char) :=
  let (cls, left) := openClass flags chars
  classItems flags (left.length + 1) cls [] left

end TextScopes.Regex
