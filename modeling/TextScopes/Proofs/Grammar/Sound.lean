import TextScopes.Proofs.Grammar.Adding
import TextScopes.Proofs.Regex.Numbering

/-!
This module contains what building a grammar makes sure of: every pattern in it has been compiled,
so that its groups are numbered from the outside to the inside.
-/

namespace TextScopes

def Rule.IsSound (rule : Rule) : Prop :=
  match rule.kind with
  | .matching regex _ => regex.expr.GroupsFrom 1
  | .region region => region.opening.expr.GroupsFrom 1 ∧ region.closing.expr.GroupsFrom 1
  | _ => True

def Grammar.IsSound (grammar : Grammar) : Prop := ∀ rule ∈ grammar.arena.rules, rule.IsSound

theorem groupsFrom_of_compileAt {path : RulePath} {pattern : String} {regex : Regex}
    (h : compileAt path pattern = .ok regex) : regex.expr.GroupsFrom 1 := by
  rcases map_eq_ok_iff.mp (mapError_eq_ok_iff.mp h) with ⟨expr, hexpr, rfl⟩
  exact Regex.groupsFrom_of_parse hexpr

namespace RuleSource

theorem isSound_of_toRegion {path : RulePath} {source : RuleSource} {opening closing : String}
    {patterns : List RuleId} {region : Region} {name : Option String}
    (h : source.toRegion path opening closing patterns = .ok region)
    : Rule.IsSound ⟨name, .region region⟩ := by
  have hpatterns {beginMap endMap : CaptureMap}
      (h : (do
        let opening ← compileAt path opening
        let closing ← compileAt path closing
        .ok ⟨opening, closing, source.contentName, beginMap, endMap, patterns⟩) = Except.ok region)
      : Rule.IsSound ⟨name, .region region⟩ := by
    rcases bind_eq_ok_iff.mp h with ⟨begins, hbegins, h⟩
    rcases bind_eq_ok_iff.mp h with ⟨ends, hends, heq⟩
    cases heq
    exact ⟨groupsFrom_of_compileAt hbegins, groupsFrom_of_compileAt hends⟩
  unfold toRegion at h
  dsimp only at h
  split at h
  . rcases bind_eq_ok_iff.mp h with ⟨map, -, h⟩
    exact hpatterns h
  . rcases bind_eq_ok_iff.mp h with ⟨first, -, h⟩
    rcases bind_eq_ok_iff.mp h with ⟨second, -, h⟩
    exact hpatterns h

theorem isSound_of_toKind {path : RulePath} {source : RuleSource} {mode : RuleMode}
    {patterns : List RuleId} {kind : RuleKind} {name : Option String}
    (h : source.toKind path mode patterns = .ok kind) : Rule.IsSound ⟨name, kind⟩ := by
  unfold toKind at h
  cases mode with
  | reference target =>
    rcases map_eq_ok_iff.mp h with ⟨target, -, rfl⟩
    trivial
  | matching pattern =>
    rcases bind_eq_ok_iff.mp h with ⟨regex, hregex, h⟩
    rcases bind_eq_ok_iff.mp h with ⟨captures, -, heq⟩
    cases heq
    exact groupsFrom_of_compileAt hregex
  | region opening closing =>
    rcases map_eq_ok_iff.mp h with ⟨region, hregion, rfl⟩
    exact isSound_of_toRegion hregion
  | container =>
    cases h
    trivial

theorem isSound_append {path : RulePath} {source : RuleSource} {mode : RuleMode}
    {patterns : List RuleId} {kind : RuleKind} {name : Option String} {rules : List Rule}
    (hrules : ∀ rule ∈ rules, rule.IsSound) (h : source.toKind path mode patterns = .ok kind)
    : ∀ rule ∈ rules ++ [⟨name, kind⟩], rule.IsSound := by
  intro rule hrule
  rcases List.mem_append.mp hrule with hrule | hrule
  . exact hrules rule hrule
  . rw [List.mem_singleton] at hrule
    rw [hrule]
    exact isSound_of_toKind h

mutual

theorem isSound_of_addTo (source : RuleSource) {rules rules' : List Rule} {path : RulePath}
    {id : RuleId} (hrules : ∀ rule ∈ rules, rule.IsSound)
    (h : addTo rules path source = .ok (rules', id)) : ∀ rule ∈ rules', rule.IsSound := by
  rcases exists_of_addTo_eq_ok h with ⟨mode, inner, ids, kind, -, hinner, hkind, rfl, rfl⟩
  exact isSound_append (isSound_of_addAllTo _ hrules hinner) hkind
termination_by sizeOf source
decreasing_by exact sizeOf_patterns_lt source

theorem isSound_of_addAllTo (sources : List RuleSource) {rules rules' : List Rule}
    {path : Nat → RulePath} {index : Nat} {ids : List RuleId}
    (hrules : ∀ rule ∈ rules, rule.IsSound)
    (h : addAllTo rules path index sources = .ok (rules', ids))
    : ∀ rule ∈ rules', rule.IsSound := by
  match sources with
  | [] =>
    cases h
    exact hrules
  | source :: rest =>
    rcases exists_of_addAllTo_cons_eq_ok h with ⟨inner, id, others, hinner, houter, rfl⟩
    exact isSound_of_addAllTo rest (isSound_of_addTo source hrules hinner) houter
termination_by sizeOf sources

end

end RuleSource

namespace GrammarSource

theorem isSound_of_addEntries {entries : List (String × RuleSource)} {rules rules' : List Rule}
    {ids ids' : SortedMap String RuleId} (hrules : ∀ rule ∈ rules, rule.IsSound)
    (h : addEntries rules ids entries = .ok (rules', ids')) : ∀ rule ∈ rules', rule.IsSound := by
  induction entries generalizing rules ids with
  | nil =>
    cases h
    exact hrules
  | cons entry rest ih =>
    rcases entry with ⟨name, source⟩
    rcases bind_eq_ok_iff.mp h with ⟨⟨inner, id⟩, hinner, h⟩
    exact ih (RuleSource.isSound_of_addTo source hrules hinner) h

theorem isSound_of_arena {source : GrammarSource} {arena : Arena} (h : source.arena = .ok arena)
    : ∀ rule ∈ arena.rules, rule.IsSound := by
  rcases bind_eq_ok_iff.mp h with ⟨⟨rules, repository⟩, hrules, h⟩
  rcases bind_eq_ok_iff.mp h with ⟨⟨all, patterns⟩, hall, heq⟩
  cases heq
  apply RuleSource.isSound_of_addAllTo source.patterns _ hall
  apply isSound_of_addEntries _ hrules
  simp

theorem of_build_eq_ok {source : GrammarSource} {grammar : Grammar}
    (h : source.build = .ok grammar)
    : grammar.scopeName = source.scopeName ∧ source.arena = .ok grammar.arena
      ∧ grammar.arena.resolve = .ok grammar.resolution := by
  have hrest {firstLineMatch : Option Regex} (h : (do
      let arena ← source.arena
      let resolution ← arena.resolve
      .ok
        { scopeName := source.scopeName
          displayName := source.name
          fileTypes := source.fileTypes
          firstLineMatch := firstLineMatch
          foldingStartMarker := source.foldingStartMarker
          foldingStopMarker := source.foldingStopMarker
          arena := arena
          resolution := resolution }) = Except.ok grammar)
      : grammar.scopeName = source.scopeName ∧ source.arena = .ok grammar.arena
        ∧ grammar.arena.resolve = .ok grammar.resolution := by
    rcases bind_eq_ok_iff.mp h with ⟨arena, harena, h⟩
    rcases bind_eq_ok_iff.mp h with ⟨resolution, hresolution, heq⟩
    cases heq
    exact ⟨rfl, harena, hresolution⟩
  unfold build at h
  dsimp only at h
  split at h
  . contradiction
  . split at h
    . rcases bind_eq_ok_iff.mp h with ⟨firstLineMatch, -, h⟩
      exact hrest h
    . exact hrest h

theorem scopeName_of_build {source : GrammarSource} {grammar : Grammar}
    (h : source.build = .ok grammar) : grammar.scopeName = source.scopeName :=
  (of_build_eq_ok h).1

theorem exists_of_build_eq_ok {source : GrammarSource} {grammar : Grammar}
    (h : source.build = .ok grammar)
    : source.arena = .ok grammar.arena ∧ grammar.arena.resolve = .ok grammar.resolution :=
  (of_build_eq_ok h).2

theorem isSound_of_build {source : GrammarSource} {grammar : Grammar}
    (h : source.build = .ok grammar) : grammar.IsSound := by
  rcases exists_of_build_eq_ok h with ⟨harena, -⟩
  exact isSound_of_arena harena

end GrammarSource

end TextScopes
