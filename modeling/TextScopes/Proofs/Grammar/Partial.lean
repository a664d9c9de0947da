import TextScopes.Proofs.Grammar.Indexed
import TextScopes.Proofs.Grammar.ReadBack
import TextScopes.Proofs.Partial

/-!
This module contains the construction of a grammar with its partial operations: the number of a rule
must fit into a word, a number must be one of a rule where the rule is looked up, and the rounds and
levels of resolving includes must suffice. A written grammar of fewer than `2 ^ 32` rules keeps all
of this, whether it builds or not.
-/

namespace TextScopes

open RuleSource

namespace RuleSource

mutual

def addTo? (rules : List Rule) (path : RulePath) : RuleSource → Attempt (List Rule × RuleId)
  | ⟨name, matchPattern, beginPattern, endPattern, contentName, captures, beginCaptures,
      endCaptures, includeTarget, patterns⟩ => do
    let rule : RuleSource := ⟨name, matchPattern, beginPattern, endPattern, contentName, captures,
      beginCaptures, endCaptures, includeTarget, patterns⟩
    let mode ← Attempt.of (rule.mode path)
    let (rules, ids) ←
      match patterns with
      | some children => addAllTo? rules (.child path) 0 children
      | none => Attempt.of (.ok (rules, []))
    let kind ← Attempt.of (rule.toKind path mode ids)
    let id ← Attempt.need (word? rules.length)
    Attempt.of (.ok (rules ++ [⟨name, kind⟩], id))
termination_by structural rule => rule

def addAllTo? (rules : List Rule) (path : Nat → RulePath) (index : Nat) :
    List RuleSource → Attempt (List Rule × List RuleId)
  | [] => Attempt.of (.ok (rules, []))
  | rule :: rest => do
    let (rules, id) ← addTo? rules (path index) rule
    let (rules, ids) ← addAllTo? rules path (index + 1) rest
    Attempt.of (.ok (rules, id :: ids))
termination_by structural rules => rules

end

end RuleSource

namespace GrammarSource

def addEntries? (rules : List Rule) (ids : SortedMap String RuleId) :
    List (String × RuleSource) → Attempt (List Rule × SortedMap String RuleId)
  | [] => Attempt.of (.ok (rules, ids))
  | (name, rule) :: rest => do
    let (rules, id) ← rule.addTo? rules (.entry name)
    addEntries? rules (ids.insert name id) rest

def arena? (source : GrammarSource) : Attempt Arena := do
  let (rules, repository) ← addEntries? [] ∅ source.repository.entries
  let (rules, patterns) ← RuleSource.addAllTo? rules .root 0 source.patterns
  Attempt.of (.ok ⟨rules, patterns, repository⟩)

end GrammarSource

namespace Arena

def expand? (arena : Arena) : (depth : Nat) → RuleId → Expansion → Attempt Expansion
  | 0, _, _ => Attempt.undefined
  | depth + 1, id, e =>
    if e.visited.contains id then Attempt.of (.ok e)
    else do
      let rule ← Attempt.need (arena.rule? id)
      let e := { e with visited := id :: e.visited }
      match ← Attempt.of (arena.standIns rule) with
      | none => Attempt.of (.ok { e with found := e.found ++ [id] })
      | some ids => ids.foldlM (fun e id => arena.expand? depth id e) e

def resolveSet? (arena : Arena) (patterns : List RuleId) : Attempt ActiveSet := do
  let e ← patterns.foldlM (fun e id => arena.expand? (arena.rules.length + 1) id e) ⟨[], []⟩
  Attempt.of (.ok ⟨e.found⟩)

def resolveRegions? (arena : Arena) : (rounds : Nat) → (waiting : List RuleId) → Resolution →
    Attempt Resolution
  | _, [], resolution => Attempt.of (.ok resolution)
  | 0, _ :: _, _ => Attempt.undefined
  | rounds + 1, id :: waiting, resolution => do
    let rule ← Attempt.need (arena.rule? id)
    match rule.region? with
    | none => arena.resolveRegions? rounds waiting resolution
    | some region => do
      let set ← arena.resolveSet? region.patterns
      let new := set.rules.filter fun id => !resolution.scanOrder.contains id
      arena.resolveRegions? rounds (waiting ++ new)
        { resolution with
          regions := resolution.regions ++ [(id, set)],
          scanOrder := resolution.scanOrder ++ new }

def resolve? (arena : Arena) : Attempt Resolution := do
  let root ← arena.resolveSet? arena.patterns
  arena.resolveRegions? arena.rules.length root.rules ⟨root, [], root.rules⟩

end Arena

def GrammarSource.build? (source : GrammarSource) : Attempt Grammar := do
  if (trimBlanks source.scopeName.toList).isEmpty then
    Attempt.of (.error (.missingField "scopeName"))
  else
    let firstLineMatch ← Attempt.of <|
      match source.firstLineMatch with
      | some pattern => (compileAt .firstLine pattern).map some
      | none => .ok none
    let arena ← source.arena?
    let resolution ← arena.resolve?
    Attempt.of <| .ok
      { scopeName := source.scopeName
        displayName := source.name
        fileTypes := source.fileTypes
        firstLineMatch := firstLineMatch
        foldingStartMarker := source.foldingStartMarker
        foldingStopMarker := source.foldingStopMarker
        arena := arena
        resolution := resolution }

namespace RuleSource

theorem addTo?_unfold (rules : List Rule) (path : RulePath) (source : RuleSource)
    : addTo? rules path source = (do
        let mode ← Attempt.of (source.mode path)
        let added ← addAllTo? rules (.child path) 0 (source.patterns.getD [])
        let kind ← Attempt.of (source.toKind path mode added.2)
        let id ← Attempt.need (word? added.1.length)
        Attempt.of (.ok (added.1 ++ [⟨source.name, kind⟩], id))) := by
  rcases source with ⟨_, _, _, _, _, _, _, _, _, patterns⟩
  cases patterns with
  | none => rfl
  | some children => rfl

mutual

theorem addTo?_eq (source : RuleSource) {rules : List Rule} {path : RulePath}
    (h : rules.length + source.postOrder.length ≤ 2 ^ 32)
    : addTo? rules path source = .of (addTo rules path source) := by
  rw [length_postOrder, innerCount] at h
  rw [addTo?_unfold, addTo_eq]
  apply Attempt.of_bind
  intro mode hmode
  rw [addAllTo?_eq _ (by omega)]
  apply Attempt.of_bind
  rintro ⟨inner, ids⟩ hinner
  have hlength := length_of_addAllTo hinner
  apply Attempt.of_bind
  intro kind hkind
  apply Attempt.need_bind
  apply word?_eq_some
  dsimp only
  omega
termination_by sizeOf source
decreasing_by exact sizeOf_patterns_lt source

theorem addAllTo?_eq (sources : List RuleSource) {rules : List Rule} {path : Nat → RulePath}
    {index : Nat} (h : rules.length + (postOrderAll sources).length ≤ 2 ^ 32)
    : addAllTo? rules path index sources = .of (addAllTo rules path index sources) := by
  match sources with
  | [] =>
    unfold addAllTo? addAllTo
    rfl
  | source :: rest =>
    rw [postOrderAll, List.length_append] at h
    unfold addAllTo? addAllTo
    rw [addTo?_eq source (by omega)]
    apply Attempt.of_bind
    rintro ⟨inner, id⟩ hinner
    have hlength := length_of_addTo hinner
    dsimp only
    rw [addAllTo?_eq rest (by omega)]
    exact Attempt.of_bind fun _ _ => rfl
termination_by sizeOf sources

end

end RuleSource

namespace GrammarSource

theorem addEntries?_eq {entries : List (String × RuleSource)} {rules : List Rule}
    {ids : SortedMap String RuleId}
    (h : rules.length + (postOrderAll (entries.map (·.2))).length ≤ 2 ^ 32)
    : addEntries? rules ids entries = .of (addEntries rules ids entries) := by
  induction entries generalizing rules ids with
  | nil => rfl
  | cons entry rest ih =>
    rcases entry with ⟨name, source⟩
    rw [List.map_cons, postOrderAll, List.length_append] at h
    dsimp only at h
    unfold addEntries? addEntries
    rw [source.addTo?_eq (by omega)]
    apply Attempt.of_bind
    rintro ⟨inner, id⟩ hinner
    have hlength := length_of_addTo hinner
    exact ih (by omega)

theorem arena?_eq {source : GrammarSource} (h : source.ruleCount < 2 ^ 32)
    : source.arena? = .of source.arena := by
  rw [ruleCount, postOrder, outermost, postOrderAll_append, List.length_append] at h
  unfold arena? arena
  rw [addEntries?_eq (by rw [List.length_nil]; omega)]
  apply Attempt.of_bind
  rintro ⟨rules, repository⟩ hrules
  rcases isIndexed_of_entries hrules with ⟨hlength, -⟩
  dsimp only
  rw [addAllTo?_eq source.patterns (by omega)]
  exact Attempt.of_bind fun _ _ => rfl

end GrammarSource

namespace Arena

variable {arena : Arena} {id : RuleId} {done waiting : List RuleId} {resolution : Resolution}

theorem foldlM_expand?_eq {depth : Nat} {ids : List RuleId} {e : Expansion}
    (h : ∀ {id : RuleId} {e : Expansion}, id < arena.rules.length →
      arena.unvisited e.visited < depth →
      arena.expand? depth id e = .of (arena.expand depth id e))
    (hids : ∀ id ∈ ids, id < arena.rules.length) (hdepth : arena.unvisited e.visited < depth)
    : ids.foldlM (fun e id => arena.expand? depth id e) e
      = .of (ids.foldlM (fun e id => arena.expand depth id e) e) := by
  apply Attempt.foldlM_eq_of (fun e => arena.unvisited e.visited < depth) _ hdepth
  intro id hid e he
  refine ⟨h (hids id hid) he, ?_⟩
  intro e' he'
  exact Nat.lt_of_le_of_lt (unvisited_le (expands_expand he he').subset) he

theorem expand?_eq {depth : Nat} {e : Expansion} (h : arena.IsIndexed)
    (hid : id < arena.rules.length) (hdepth : arena.unvisited e.visited < depth)
    : arena.expand? depth id e = .of (arena.expand depth id e) := by
  induction depth generalizing id e with
  | zero => contradiction
  | succ depth ih =>
    rcases exists_rule?_of_lt hid with ⟨rule, hrule⟩
    unfold expand? expand
    split
    . rfl
    . next hnew =>
      -- entering the rule takes one level and leaves one rule less
      have hlt := unvisited_cons_lt hrule (by simpa using hnew)
      rw [Attempt.need_bind hrule, hrule]
      apply Attempt.of_bind
      intro stand hstand
      cases stand with
      | none => rfl
      | some ids =>
        have hids (other : RuleId) (hother : other ∈ ids) : other < arena.rules.length :=
          h.lt_of_mem_standIns hrule hstand hother
        exact foldlM_expand?_eq ih hids (by dsimp only; omega)

theorem resolveSet?_eq {patterns : List RuleId} (h : arena.IsIndexed)
    (hpatterns : ∀ id ∈ patterns, id < arena.rules.length)
    : arena.resolveSet? patterns = .of (arena.resolveSet patterns) := by
  unfold resolveSet? resolveSet
  rw [foldlM_expand?_eq (expand?_eq h) hpatterns (by simp [unvisited])]
  exact Attempt.of_bind fun _ _ => rfl

theorem resolveRegions?_eq {rounds : Nat} (h : arena.IsIndexed)
    (hlevels : arena.Levels done waiting resolution)
    (hrounds : arena.rules.length ≤ done.length + rounds)
    : arena.resolveRegions? rounds waiting resolution
      = .of (arena.resolveRegions rounds waiting resolution) := by
  induction rounds generalizing done waiting resolution with
  | zero =>
    have hlength := hlevels.length_le
    rw [List.length_append] at hlength
    obtain rfl : waiting = [] := List.length_eq_zero_iff.mp (by omega)
    rfl
  | succ rounds ih =>
    cases waiting with
    | nil => rfl
    | cons id waiting =>
      have hlength : (done ++ [id]).length = done.length + 1 := by simp
      rcases hlevels.matcher id (by simp) with ⟨rule, hrule, -⟩
      have hkind : (arena.rule? id).bind Rule.region? = rule.region? := by
        rw [hrule, Option.bind_some]
      unfold resolveRegions? resolveRegions
      rw [Attempt.need_bind hrule, hkind]
      cases hregion : rule.region? with
      | none => exact ih (hlevels.skip (hkind.trans hregion)) (by omega)
      | some region =>
        have hregion := hkind.trans hregion
        dsimp only
        rw [resolveSet?_eq h fun child hchild => h.lt_of_mem_patterns hregion hchild]
        apply Attempt.of_bind
        intro set hset
        exact ih (hlevels.level hregion (resolves_resolveSet hset)) (by omega)

theorem resolve?_eq (h : arena.IsIndexed) : arena.resolve? = .of arena.resolve := by
  unfold resolve? resolve
  rw [resolveSet?_eq h h.patterns]
  apply Attempt.of_bind
  intro root hroot
  exact resolveRegions?_eq h (.initial (resolves_resolveSet hroot)) (by simp)

end Arena

/-- No written grammar of fewer than `2 ^ 32` rules makes its construction look up a rule that is
not there, or run out of numbers, levels or rounds. -/
theorem GrammarSource.build?_eq {source : GrammarSource} (h : source.ruleCount < 2 ^ 32)
    : source.build? = .of source.build := by
  unfold build? build
  split
  . rfl
  . have hrest {f : Arena → Resolution → Grammar}
        : (do
            let arena ← source.arena?
            let resolution ← arena.resolve?
            .of (.ok (f arena resolution)))
          = Attempt.of (do
            let arena ← source.arena
            let resolution ← arena.resolve
            .ok (f arena resolution)) := by
      rw [arena?_eq h]
      apply Attempt.of_bind
      intro arena harena
      rw [Arena.resolve?_eq (isIndexed_of_arena harena)]
      exact Attempt.of_bind fun _ _ => rfl
    cases source.firstLineMatch with
    | none => exact hrest
    | some pattern => exact Attempt.of_bind fun _ _ => hrest

end TextScopes
