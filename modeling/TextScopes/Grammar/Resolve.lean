import TextScopes.Error
import TextScopes.Grammar.Basic

/-!
This module contains the resolution of includes: which rules can match at a level of nesting. The
rules of a level are found by following containers and includes, depth first and in order; a rule is
entered once, so that includes may go in circles. The levels of a grammar are found breadth first.
-/

namespace TextScopes

structure Expansion where
  visited : List RuleId
  /-- The rules found that match something, in order. -/
  found : List RuleId
  deriving DecidableEq, Repr

namespace Arena

/-- The rules that stand in for a rule, or none for a rule that matches something itself. -/
def standIns (arena : Arena) (rule : Rule) : Except Error (Option (List RuleId)) :=
  match rule.kind with
  | .matching _ _ | .region _ => .ok none
  | .container patterns => .ok (some patterns)
  | .reference .root => .ok (some arena.patterns)
  | .reference (.entry name) =>
    match arena.repository.get? name with
    | some id => .ok (some [id])
    | none => .error (.unresolvedInclude ("#" ++ name))

/-- Follow the includes of one rule. Each level of `depth` enters a rule that was not entered
before, so the number of rules bounds the depth. -/
def expand (arena : Arena) : (depth : Nat) → RuleId → Expansion → Except Error Expansion
  | 0, _, e => .ok e
  | depth + 1, id, e =>
    if e.visited.contains id then .ok e
    else
      let e := { e with visited := id :: e.visited }
      match arena.rule? id with
      | none => .ok e
      | some rule => do
        match ← arena.standIns rule with
        | none => .ok { e with found := e.found ++ [id] }
        | some ids => ids.foldlM (fun e id => arena.expand depth id e) e

/-- The rules that can match where the given ones are active. -/
def resolveSet (arena : Arena) (patterns : List RuleId) : Except Error ActiveSet := do
  let e ← patterns.foldlM (fun e id => arena.expand (arena.rules.length + 1) id e) ⟨[], []⟩
  .ok ⟨e.found⟩

/-- Find the levels of the waiting rules, and of the rules found on the way. A rule waits once, so
the number of rules bounds the number of rounds. -/
def resolveRegions (arena : Arena) : (rounds : Nat) → (waiting : List RuleId) → Resolution →
    Except Error Resolution
  | 0, _, resolution => .ok resolution
  | _, [], resolution => .ok resolution
  | rounds + 1, id :: waiting, resolution =>
    match (arena.rule? id).bind Rule.region? with
    | none => arena.resolveRegions rounds waiting resolution
    | some region => do
      let set ← arena.resolveSet region.patterns
      let new := set.rules.filter fun id => !resolution.scanOrder.contains id
      arena.resolveRegions rounds (waiting ++ new)
        { resolution with
          regions := resolution.regions ++ [(id, set)],
          scanOrder := resolution.scanOrder ++ new }

def resolve (arena : Arena) : Except Error Resolution := do
  let root ← arena.resolveSet arena.patterns
  arena.resolveRegions arena.rules.length root.rules ⟨root, [], root.rules⟩

end Arena

end TextScopes
