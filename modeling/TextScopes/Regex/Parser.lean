import TextScopes.Regex.Class
import TextScopes.Regex.Size

/-!
This module contains the reader of patterns. It keeps the open groups on a list and reads a pattern
from left to right, one step for each group, operator or character. Flags hold to the end of the
group in which they are set.
-/

namespace TextScopes.Regex

structure Item where
  expr : Expr
  depth : Nat
  /-- Whether the part may be repeated. Flags may not. -/
  repeatable : Bool

/-- A group that is still open, or the whole pattern. -/
structure OpenGroup where
  /-- The flags that hold again behind the group. -/
  outerFlags : Flags
  index : Option Nat
  /-- The branches before the current one, the latest first. -/
  branches : List Item
  /-- The parts of the current branch, the latest first. -/
  items : List Item

namespace OpenGroup

def start (flags : Flags) (index : Option Nat) : OpenGroup := ⟨flags, index, [], []⟩

def add (item : Item) (group : OpenGroup) : OpenGroup := { group with items := item :: group.items }

def branch (group : OpenGroup) : Item :=
  match group.items with
  | [] => ⟨.empty, 0, true⟩
  | [item] => ⟨item.expr, item.depth, true⟩
  | items =>
    ⟨.ofParts (items.reverse.map (·.expr)), (items.map (·.depth)).foldl max 0 + 1, true⟩

def nextBranch (group : OpenGroup) : OpenGroup :=
  { group with branches := group.branch :: group.branches, items := [] }

def body (group : OpenGroup) : Item :=
  match group.branches with
  | [] => group.branch
  | _ =>
    let branches := group.branch :: group.branches
    ⟨.ofBranches (branches.reverse.map (·.expr)), (branches.map (·.depth)).foldl max 0 + 1, true⟩

def close (group : OpenGroup) : Item :=
  let body := group.body
  match group.index with
  | some index => ⟨.group index body.expr, body.depth + 1, true⟩
  | none => ⟨body.expr, body.depth + 1, true⟩

end OpenGroup

structure Reader where
  flags : Flags
  group : OpenGroup
  /-- The groups around it, innermost first. -/
  outer : List OpenGroup
  groups : Nat
  names : List (List Char)

namespace Reader

def initial : Reader := ⟨.initial, .start .initial none, [], 0, []⟩

def add (expr : Expr) (depth : Nat) (r : Reader) : Reader :=
  { r with group := r.group.add ⟨expr, depth, true⟩ }

def openGroup (flags : Flags) (index : Option Nat) (r : Reader) : Reader :=
  { r with flags := flags, group := .start r.flags index, outer := r.group :: r.outer }

def openRecorded (r : Reader) : Reader :=
  { r.openGroup r.flags (some (r.groups + 1)) with groups := r.groups + 1 }

def repeatLast (least : Nat) (most : Option Nat) (greedy : Bool) (r : Reader) :
    Except Fault Reader :=
  match r.group.items with
  | [] => .error .nothingToRepeat
  | item :: items =>
    if item.repeatable then
      let expr := Expr.ofRepetition least most (greedy != r.flags.swapGreed) item.expr
      .ok { r with group := { r.group with items := ⟨expr, item.depth + 1, true⟩ :: items } }
    else .error .nothingToRepeat

end Reader

/-- Read the letters of flags up to a colon or a closing parenthesis, which is left unread. A hyphen
turns the flags behind it off. No letter may stand twice. -/
def flagLetters (flags : Flags) (value : Bool) (seen : List Char) : List Char →
    Except Fault (Flags × List Char)
  | [] => .error .badFlags
  | c :: rest =>
    if c = ':' || c = ')' then
      if seen.head? = some '-' then .error .badFlags else .ok (flags, c :: rest)
    else if seen.contains c then .error .badFlags
    else if c = '-' then flagLetters flags false (c :: seen) rest
    else
      match flags.set? c value with
      | some flags => flagLetters flags value (c :: seen) rest
      | none => .error .badFlags

def isNameChar (first : Bool) (c : Char) : Bool :=
  c == '_' || isAlphabetic c ||
    (!first && (c == '.' || c == '[' || c == ']' ||
      (Property.categories ["nd", "nl", "no"]).contains c))

def groupName (chars : List Char) : Except Fault (List Char × List Char) :=
  match chars.takeWhile (· != '>'), chars.dropWhile (· != '>') with
  | first :: others, _ :: left =>
    if isNameChar true first && others.all (isNameChar false) then .ok (first :: others, left)
    else .error .badGroupName
  | _, _ => .error .badGroupName

/-- Open a named group, behind the opening bracket of its name. -/
def namedGroup (r : Reader) (chars : List Char) : Except Fault (Reader × List Char) := do
  let (name, left) ← groupName chars
  if r.names.contains name then .error .badGroupName
  else .ok ({ r.openRecorded with names := name :: r.names }, left)

def groupStart (r : Reader) (chars : List Char) : Except Fault (Reader × List Char) :=
  match r.flags.skip chars with
  | '?' :: '=' :: _ | '?' :: '!' :: _ | '?' :: '<' :: '=' :: _ | '?' :: '<' :: '!' :: _ =>
    .error .lookaround
  | '?' :: 'P' :: '<' :: rest => namedGroup r rest
  | '?' :: '<' :: rest => namedGroup r rest
  | '?' :: rest => do
    let (flags, left) ← flagLetters r.flags true [] rest
    match left with
    | ':' :: left => .ok (r.openGroup flags none, left)
    | left =>
      if rest.head? = some ')' then .error .nothingToRepeat
      else .ok ({ r with flags := flags, group := r.group.add ⟨.empty, 0, false⟩ }, left.drop 1)
  | rest => .ok (r.openRecorded, rest)

def groupEnd (r : Reader) : Except Fault Reader :=
  match r.outer with
  | [] => .error .unopenedGroup
  | parent :: outer =>
    .ok { r with flags := r.group.outerFlags, group := parent.add r.group.close, outer := outer }

/-- Split off a question mark, which makes a repetition lazy. -/
def lazyMark (chars : List Char) : Bool × List Char :=
  match chars with
  | '?' :: rest => (false, rest)
  | rest => (true, rest)

/-- Read a number of a repetition, with blanks around it. -/
def countNumber (flags : Flags) (chars : List Char) : Option Nat × List Char :=
  let chars := chars.dropWhile isBlank
  let (digits, left) := takeSpaced flags Char.isDigit chars.length chars
  let n := numberOf 10 digits
  (if digits.isEmpty || Nat.pow 2 32 ≤ n then none else some n, left.dropWhile isBlank)

/-- Read the bounds of a repetition, behind the opening brace. -/
def counts (flags : Flags) (chars : List Char) : Except Fault (Nat × Option Nat × List Char) := do
  let (least?, rest) := countNumber flags (flags.skip chars)
  let some least := least? | .error .badCount
  match rest with
  | '\x7d' :: left => .ok (least, some least, left)
  | ',' :: rest =>
    match flags.skip rest with
    | '\x7d' :: left => .ok (least, none, left)
    | rest =>
      match countNumber flags rest with
      | (some most, '\x7d' :: left) =>
        if least ≤ most then .ok (least, some most, left) else .error .badCount
      | _ => .error .badCount
  | _ => .error .badCount

/-- Read one group mark, operator or part of a pattern that begins with `c`. -/
def Reader.step (r : Reader) (c : Char) (rest : List Char) : Except Fault (Reader × List Char) :=
  let counted (least : Nat) (most : Option Nat) : Except Fault (Reader × List Char) := do
    let (greedy, left) := lazyMark rest
    .ok (← r.repeatLast least most greedy, left)
  match c with
  | '(' => groupStart r rest
  | ')' => do .ok (← groupEnd r, rest)
  | '|' => .ok ({ r with group := r.group.nextBranch }, rest)
  | '[' => do
    let (chars, depth, left) ← charClass r.flags rest
    .ok (r.add (.ofSet chars) depth, left)
  | '?' => counted 0 (some 1)
  | '*' => counted 0 none
  | '+' => counted 1 none
  | '\x7b' => do
    let _ ← r.repeatLast 0 none true
    let (least, most, left) ← counts r.flags rest
    let (greedy, left) := lazyMark (r.flags.skip left)
    .ok (← r.repeatLast least most greedy, left)
  | '.' => do .ok (r.add (← r.flags.dotExpr) 0, rest)
  | '^' => .ok (r.add (.look r.flags.startLook) 0, rest)
  | '$' => .ok (r.add (.look r.flags.endLook) 0, rest)
  | '\\' => do
    match ← escape r.flags rest with
    | (.char c byte, left) =>
      if byte && !r.flags.unicode && 0x80 ≤ c.toNat then .error .partialCharacter
      else .ok (r.add (r.flags.charExpr c) 0, left)
    | (.set chars, left) => .ok (r.add (.ofSet chars) 0, left)
    | (.look look, left) => .ok (r.add (.look look) 0, left)
  | c => .ok (r.add (r.flags.charExpr c) 0, rest)

/-- Read a whole pattern. Every round reads a character. -/
def Reader.run : (rounds : Nat) → Reader → List Char → Except Fault Item
  | rounds, r, chars =>
    match r.flags.skip chars, rounds with
    | [], _ => if r.outer.isEmpty then .ok r.group.body else .error .unclosedGroup
    | _, 0 => .error .tooDeep
    | c :: rest, rounds + 1 => do
      let (r, left) ← r.step c rest
      run rounds r left

def depthLimit : Nat := 250

def parse (pattern : List Char) : Except Fault Expr := do
  let item ← Reader.initial.run pattern.length pattern
  if depthLimit < item.depth then .error .tooDeep
  else if Expr.sizeLimit < item.expr.size then .error .tooLarge
  else .ok item.expr

end TextScopes.Regex
