import TextScopes.Text.CharSet
import TextScopes.Text.Word

/-!
This module contains regular expressions in the form in which they are matched, and the functions
that build them. The builders simplify as they go: a set of one character becomes a literal,
neighbouring literals join, alternatives of one character join into a set, and alternatives that
begin alike share their beginning. Sharing a beginning fixes which match is preferred, so it is part
of what a pattern means.
-/

namespace TextScopes.Regex

/-- A condition on a place of the text, which reads nothing. The flag of a word condition says
whether only ASCII characters count as parts of words. -/
inductive Look where
  | textStart
  | textEnd
  /-- The start of a line, with line feeds between lines. -/
  | lineStart
  /-- The end of a line, with line feeds between lines. -/
  | lineEnd
  /-- The start of a line, with carriage returns, line feeds or both between lines. -/
  | anyLineStart
  /-- The end of a line, with carriage returns, line feeds or both between lines. -/
  | anyLineEnd
  | wordEdge (ascii : Bool)
  | noWordEdge (ascii : Bool)
  | wordStart (ascii : Bool)
  | wordEnd (ascii : Bool)
  | noWordBefore (ascii : Bool)
  | noWordAfter (ascii : Bool)
  deriving DecidableEq, Repr

def Look.holds (look : Look) (prev next : Option Char) : Bool :=
  let inWord (ascii : Bool) (c? : Option Char) : Bool :=
    c?.any fun c => if ascii then isAsciiWord c else isWord c
  match look with
  | textStart => prev.isNone
  | textEnd => next.isNone
  | lineStart => prev.isNone || prev == some '\n'
  | lineEnd => next.isNone || next == some '\n'
  | anyLineStart =>
    prev.isNone || prev == some '\n' || (prev == some '\r' && next != some '\n')
  | anyLineEnd =>
    next.isNone || next == some '\r' || (next == some '\n' && prev != some '\r')
  | wordEdge ascii => inWord ascii prev != inWord ascii next
  | noWordEdge ascii => inWord ascii prev == inWord ascii next
  | wordStart ascii => !inWord ascii prev && inWord ascii next
  | wordEnd ascii => inWord ascii prev && !inWord ascii next
  | noWordBefore ascii => !inWord ascii prev
  | noWordAfter ascii => !inWord ascii next

inductive Expr where
  | empty
  | literal (chars : List Char)
  /-- One character of a set; nothing at all if the set is empty. -/
  | set (chars : CharSet)
  | look (look : Look)
  /-- A body so many times; greedy repetitions prefer more, others fewer. -/
  | repetition (min : Nat) (max : Option Nat) (greedy : Bool) (body : Expr)
  | group (index : Nat) (body : Expr)
  | concat (parts : List Expr)
  /-- One of several branches, the first that leads to a match. -/
  | alternation (branches : List Expr)
  deriving Repr, Inhabited

namespace Expr

mutual

def same : Expr → Expr → Bool
  | empty, empty => true
  | literal a, literal b => a == b
  | set a, set b => a = b
  | look a, look b => a = b
  | repetition m n g a, repetition m' n' g' b => m == m' && n == n' && g == g' && same a b
  | group i a, group j b => i == j && same a b
  | concat as, concat bs => sameAll as bs
  | alternation as, alternation bs => sameAll as bs
  | _, _ => false
termination_by structural e => e

def sameAll : List Expr → List Expr → Bool
  | [], [] => true
  | a :: as, b :: bs => same a b && sameAll as bs
  | _, _ => false
termination_by structural es => es

end

def addLengths (a b : Option Nat) : Option Nat := a.bind fun m => b.map (m + ·)

mutual

/-- The least number of characters of a match, if there can be a match. -/
def shortest : Expr → Option Nat
  | empty | look _ => some 0
  | literal chars => some chars.length
  | set chars => if chars.isEmpty then none else some 1
  | repetition min _ _ body => (shortest body).map (· * min)
  | group _ body => shortest body
  | concat parts => shortestSum parts
  | alternation branches => shortestMin branches
termination_by structural e => e

def shortestSum : List Expr → Option Nat
  | [] => some 0
  | e :: es => addLengths (shortest e) (shortestSum es)
termination_by structural es => es

/-- The least number of characters of any branch, if each branch can match. -/
def shortestMin : List Expr → Option Nat
  | [] => none
  | [e] => shortest e
  | e :: es => (shortest e).bind fun m => (shortestMin es).map (min m ·)
termination_by structural es => es

end

mutual

def readsNothing : Expr → Bool
  | empty | look _ => true
  | literal chars => chars.isEmpty
  | set _ => false
  | repetition _ max _ body => max == some 0 || (max.isSome && readsNothing body)
  | group _ body => readsNothing body
  | concat parts => readNothing parts
  | alternation branches => readNothing branches
termination_by structural e => e

/-- Whether no match of any of the expressions reads a character. -/
def readNothing : List Expr → Bool
  | [] => true
  | e :: es => readsNothing e && readNothing es
termination_by structural es => es

end

def readsSomething (e : Expr) : Bool := (shortest e).any (0 < ·)

/-- One character of a set, as a literal where the set has a single member. -/
def ofSet (chars : CharSet) : Expr :=
  match chars.toChar? with
  | some c => literal [c]
  | none => set chars

/-- Put one part in front of others, joining literals. -/
def consPart (part : Expr) (parts : List Expr) : List Expr :=
  match part, parts with
  | empty, _ => parts
  | literal a, literal b :: rest => literal (a ++ b) :: rest
  | _, _ => part :: parts

/-- Parts one after the other. Empty parts vanish, nested sequences open up, literals join. -/
def ofParts (parts : List Expr) : Expr :=
  let flat := parts.flatMap fun
    | concat inner => inner
    | part => [part]
  match flat.foldr consPart [] with
  | [] => empty
  | [part] => part
  | joined => concat joined

/-- The characters that a branch of one character may read. -/
def charsOf? : Expr → Option CharSet
  | literal [c] => some (CharSet.singleton c)
  | set chars => some chars
  | _ => none

/-- Branches of which one is to match, nested alternations opened up. -/
def flatBranches (branches : List Expr) : List Expr :=
  branches.flatMap fun
    | alternation inner => inner
    | branch => [branch]

/-- One of several branches. Branches of one character each become a set. -/
def ofFlatBranches (branches : List Expr) : Expr :=
  match branches with
  | [] => set ∅
  | [branch] => branch
  | _ =>
    match branches.mapM charsOf? with
    | some sets => ofSet (sets.foldl (· ∪ ·) ∅)
    | none => alternation branches

def sharedParts : List Expr → List Expr → List Expr
  | a :: as, b :: bs => if same a b then a :: sharedParts as bs else []
  | _, _ => []

def parts? : Expr → Option (List Expr)
  | concat parts => some parts
  | _ => none

/-- The beginning shared by all branches and what each has behind it, if all are sequences that
begin alike. -/
def sharedBeginning? (branches : List Expr) : Option (List Expr × List (List Expr)) :=
  match branches.mapM parts? with
  | some (first :: second :: others) =>
    match (second :: others).foldl sharedParts first with
    | [] => none
    | shared => some (shared, (first :: second :: others).map (·.drop shared.length))
  | _ => none

/-- One of several branches, with their shared beginning in front. -/
def ofBranches (branches : List Expr) : Expr :=
  match ofFlatBranches (flatBranches branches) with
  | alternation flat =>
    match sharedBeginning? flat with
    | some (shared, tails) =>
      ofParts (shared ++ [ofFlatBranches (flatBranches (tails.map ofParts))])
    | none => alternation flat
  | e => e

/-- A body repeated between two bounds. A body that reads nothing need not be repeated. -/
def ofRepetition (min : Nat) (max : Option Nat) (greedy : Bool) (body : Expr) : Expr :=
  let (min, max) :=
    if readsNothing body then (Nat.min min 1, some (max.elim 1 (Nat.min 1))) else (min, max)
  if max = some 0 then empty
  else if min = 1 ∧ max = some 1 then body
  else repetition min max greedy body

mutual

/-- The number of group indices in use, counting the whole match. -/
def groupCount : Expr → Nat
  | empty | literal _ | set _ | look _ => 1
  | repetition _ _ _ body => groupCount body
  | group index body => max (index + 1) (groupCount body)
  | concat parts => groupCounts parts
  | alternation branches => groupCounts branches
termination_by structural e => e

def groupCounts : List Expr → Nat
  | [] => 1
  | e :: es => max (groupCount e) (groupCounts es)
termination_by structural es => es

end

end Expr

end TextScopes.Regex
