import TextScopes.Regex.Expr
import TextScopes.Regex.Thread

/-!
This module contains the meaning of regular expressions. `ends` lists the places where matches of
an expression can end, the preferred one first: of several branches the earliest, of several counts
the largest if the repetition is greedy. Each place is listed once, with the groups of the match
that is preferred among those ending there.
-/

namespace TextScopes.Regex

open Thread

structure Iteration where
  /-- Where each copy of the body was entered. -/
  entered : List Offsets
  /-- The threads that left the repetition, the latest first. -/
  left : List Thread

namespace Iteration

def hasEntered (found : Iteration) (copy offset : Nat) : Bool :=
  (found.entered[copy]?).any (·.contains offset)

def enter.go (offset : Nat) : (copy : Nat) → List Offsets → List Offsets
  | 0, [] => [Offsets.insert ∅ offset]
  | 0, s :: rest => s.insert offset :: rest
  | copy + 1, [] => ∅ :: go offset copy []
  | copy + 1, s :: rest => s :: go offset copy rest

def enter (found : Iteration) (copy offset : Nat) : Iteration :=
  { found with entered := enter.go offset copy found.entered }

def leave (found : Iteration) (t : Thread) : Iteration := { found with left := t :: found.left }

end Iteration

/-- Iterate a body at most so many more times. `copy` numbers the bodies left to iterate; a body is
entered once at each place. -/
def iterate (body : Nat → Thread → List Thread) (copy : Nat → Nat) (greedy : Bool)
    (address : Address) : (times : Nat) → Thread → Iteration → Iteration
  | 0, t, found => found.leave t
  | times + 1, t, found =>
    let current := copy (times + 1)
    let choice := 0 :: current :: address
    if t.passed.contains choice || found.hasEntered current t.offset then found
    else
      let t := t.pass choice
      let found := found.enter current t.offset
      let found := if greedy then found else found.leave t
      let found := (body current t).foldl
        (fun found next => iterate body copy greedy address times next found) found
      if greedy then found.leave t else found

/-- The places that a run of at most so many characters can reach, the nearest first. -/
def runs (chars : CharSet) (copy : Nat → Nat) (address : Address) :
    (times : Nat) → Thread → List Thread
  | 0, t => [t]
  | times + 1, t =>
    let t := t.pass (0 :: copy (times + 1) :: address)
    match t.read? chars.contains with
    | some next => t :: runs chars copy address times next
    | none => [t]

def each (body : Thread → List Thread) (threads : List Thread) : List Thread :=
  match threads with
  | [t] => body t
  | _ => distinct (threads.flatMap body)

/-- Go through a body so many times, numbering its copies from one on. -/
def exactly (body : Nat → Thread → List Thread) : (done times : Nat) → List Thread → List Thread
  | _, 0, threads => threads
  | done, times + 1, threads =>
    match threads with
    | [] => []
    | _ => exactly body (done + 1) times (each (body (done + 1)) threads)

/-- Iterate a body from each of several threads and list where it leaves off. -/
def iterateEach (body : Nat → Thread → List Thread) (copy : Nat → Nat) (greedy : Bool)
    (address : Address) (times : Nat) (threads : List Thread) : List Thread :=
  distinct (threads.foldl (fun found t => iterate body copy greedy address times t found)
    ⟨[], []⟩).left.reverse

/-- A repetition of a body. `chars` holds the characters of a body that reads just one, and `reads`
says whether every match of the body reads something. -/
def repeated (body : Nat → Thread → List Thread) (chars : Option CharSet) (reads greedy : Bool)
    (least : Nat) (most : Option Nat) (address : Address) (t : Thread) : List Thread :=
  let threads := exactly body 0 least [t]
  let (copy, times) : (Nat → Nat) × Nat :=
    match most with
    | some m => (fun remaining => m + 1 - remaining, m - least)
    | none => (fun _ => least, t.cursor.rest.length + 2)
  match chars, threads with
  | some chars, [t] =>
    if times ≠ 0 ∧ t.passed.contains (0 :: copy times :: address) then []
    else
      let reached := runs chars copy address times t
      if greedy then reached.reverse else reached
  | _, _ =>
    if most.isNone && least == 0 && !reads then
      let choice := 2 :: address
      if t.passed.contains choice then []
      else
        let t := t.pass choice
        let again := iterateEach body copy greedy address times (body 0 t)
        distinct (if greedy then again ++ [t] else t :: again)
    else iterateEach body copy greedy address times threads

mutual

/-- Where matches of an expression can end, the preferred one first. -/
def ends : Expr → Address → Thread → List Thread
  | .empty, _, t => [t]
  | .literal chars, _, t => (t.readAll? chars).toList
  | .set chars, _, t => (t.read? chars.contains).toList
  | .look look, _, t => if look.holds t.cursor.prev t.cursor.rest.head? then [t] else []
  | .group index body, address, t => (ends body address t).map (record index t.offset)
  | .concat parts, address, t => endsAll parts address 0 [t]
  | .alternation branches, address, t =>
    if t.passed.contains address then []
    else distinct (endsAny branches address 0 (t.pass address))
  | .repetition least most greedy body, address, t =>
    repeated (fun copy t => ends body (1 :: copy :: address) t) body.charsOf? body.readsSomething
      greedy least most address t
termination_by structural e => e

def endsAll : List Expr → Address → (index : Nat) → List Thread → List Thread
  | [], _, _, threads => threads
  | part :: parts, address, index, threads =>
    endsAll parts address (index + 1) (each (ends part (index :: address)) threads)
termination_by structural es => es

def endsAny : List Expr → Address → (index : Nat) → Thread → List Thread
  | [], _, _, _ => []
  | branch :: branches, address, index, t =>
    ends branch (index :: address) t ++ endsAny branches address (index + 1) t
termination_by structural es => es

end

end TextScopes.Regex
