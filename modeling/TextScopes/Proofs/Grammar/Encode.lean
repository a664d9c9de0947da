import TextScopes.Proofs.Grammar.Adding
import TextScopes.Proofs.Grammar.WellFormed
import TextScopes.Proofs.SortedMap

/-!
This module contains how written rules stand in the list of all rules: which rules can be added to
it, and that a rule that was added is found there together with the rules inside it.
-/

namespace TextScopes

/-- Whether a list of rules holds at a position what a written rule stands for, and what the rules
inside it stand for at the positions given there. -/
inductive RuleSource.StandsAt (rules : List Rule) : RuleId → RuleSource → Prop
  | intro {id : RuleId} {source : RuleSource} {path : RulePath} {mode : RuleMode} {kind : RuleKind}
    {ids : List RuleId} (hmode : source.mode path = .ok mode)
    (hkind : source.toKind path mode ids = .ok kind) (hrule : rules[id]? = some ⟨source.name, kind⟩)
    (hlength : ids.length = (source.patterns.getD []).length)
    (hchildren : ∀ (i : Nat) (id : RuleId) (child : RuleSource), ids[i]? = some id →
      (source.patterns.getD [])[i]? = some child → StandsAt rules id child)
    : StandsAt rules id source

/-- Whether written rules stand one by one at given positions. -/
def RuleSource.StandAt (rules : List Rule) (ids : List RuleId) (sources : List RuleSource) : Prop :=
  ids.length = sources.length
    ∧ ∀ (i : Nat) (id : RuleId) (source : RuleSource), ids[i]? = some id →
      sources[i]? = some source → source.StandsAt rules id

namespace RuleSource

variable {rules rules' : List Rule} {path : RulePath} {id : RuleId} {ids : List RuleId}
  {sources : List RuleSource}

theorem StandsAt.append {source : RuleSource} (h : source.StandsAt rules id) (more : List Rule)
    : source.StandsAt (rules ++ more) id := by
  induction h with
  | intro hmode hkind hrule hlength _ ih =>
    refine .intro hmode hkind ?_ hlength ih
    rw [List.getElem?_append_left (List.getElem?_eq_some_iff.mp hrule).1]
    exact hrule

theorem StandAt.append (h : StandAt rules ids sources) (more : List Rule)
    : StandAt (rules ++ more) ids sources :=
  ⟨h.1, fun i id source hid hsource => (h.2 i id source hid hsource).append more⟩

theorem StandAt.cons {source : RuleSource} (h : source.StandsAt rules id)
    (hrest : StandAt rules ids sources) : StandAt rules (id :: ids) (source :: sources) := by
  refine ⟨by simp [hrest.1], ?_⟩
  intro i id' source' hid hsource
  cases i with
  | zero =>
    cases hid
    cases hsource
    exact h
  | succ i => exact hrest.2 i id' source' hid hsource

theorem StandAt.exists_source (h : StandAt rules ids sources) (hid : id ∈ ids)
    : ∃ source ∈ sources, source.StandsAt rules id := by
  rcases List.mem_iff_getElem?.mp hid with ⟨i, hi⟩
  have hlt : i < sources.length := h.1 ▸ (List.getElem?_eq_some_iff.mp hi).1
  have hsource := List.getElem?_eq_getElem hlt
  exact ⟨sources[i], List.getElem_mem hlt, h.2 i id _ hi hsource⟩

theorem StandAt.exists_id {source : RuleSource} (h : StandAt rules ids sources)
    (hsource : source ∈ sources) : ∃ id ∈ ids, source.StandsAt rules id := by
  rcases List.mem_iff_getElem?.mp hsource with ⟨i, hi⟩
  have hlt : i < ids.length := h.1 ▸ (List.getElem?_eq_some_iff.mp hi).1
  have hid := List.getElem?_eq_getElem hlt
  exact ⟨ids[i], List.getElem_mem hlt, h.2 i _ source hid hi⟩

mutual

theorem standsAt_of_addTo (source : RuleSource) {rules rules' : List Rule} {path : RulePath}
    {id : RuleId} (h : addTo rules path source = .ok (rules', id))
    : (∃ more, rules' = rules ++ more) ∧ source.StandsAt rules' id := by
  rcases exists_of_addTo_eq_ok h with ⟨mode, inner, ids, kind, hmode, hinner, hkind, rfl, rfl⟩
  rcases standAt_of_addAllTo _ hinner with ⟨⟨more, rfl⟩, hstand⟩
  have hstand := hstand.append [⟨source.name, kind⟩]
  exact ⟨⟨more ++ [⟨source.name, kind⟩], by simp⟩,
    .intro hmode hkind (by simp) hstand.1 hstand.2⟩
termination_by sizeOf source
decreasing_by exact sizeOf_patterns_lt source

theorem standAt_of_addAllTo (sources : List RuleSource) {rules rules' : List Rule}
    {path : Nat → RulePath} {index : Nat} {ids : List RuleId}
    (h : addAllTo rules path index sources = .ok (rules', ids))
    : (∃ more, rules' = rules ++ more) ∧ StandAt rules' ids sources := by
  match sources with
  | [] =>
    cases h
    exact ⟨⟨[], by simp⟩, rfl, by simp⟩
  | source :: rest =>
    rcases exists_of_addAllTo_cons_eq_ok h with ⟨inner, id, ids, hinner, houter, rfl⟩
    rcases standsAt_of_addTo source hinner with ⟨⟨more, rfl⟩, hstands⟩
    rcases standAt_of_addAllTo rest houter with ⟨⟨others, rfl⟩, hstand⟩
    exact ⟨⟨more ++ others, by simp⟩, .cons (hstands.append others) hstand⟩
termination_by sizeOf sources

end

mutual

theorem exists_addTo_iff (source : RuleSource) (rules : List Rule) (path : RulePath)
    : (∃ added, addTo rules path source = .ok added) ↔ source.IsWellFormed := by
  constructor
  . rintro ⟨⟨rules', id⟩, h⟩
    rcases exists_of_addTo_eq_ok h with ⟨mode, inner, ids, kind, hmode, hinner, hkind, -, -⟩
    exact (isWellFormed_iff path ids).mpr
      ⟨⟨mode, hmode, kind, hkind⟩, (exists_addAllTo_iff _ rules (.child path) 0).mp ⟨_, hinner⟩⟩
  . intro h
    have hinside := ((isWellFormed_iff path []).mp h).2
    rcases (exists_addAllTo_iff _ rules (.child path) 0).mpr hinside with ⟨⟨inner, ids⟩, hinner⟩
    rcases (isWellFormed_iff path ids).mp h with ⟨⟨mode, hmode, kind, hkind⟩, -⟩
    rw [addTo_eq]
    exact ⟨_, bind_eq_ok_iff.mpr ⟨mode, hmode, bind_eq_ok_iff.mpr ⟨(inner, ids), hinner,
      bind_eq_ok_iff.mpr ⟨kind, hkind, rfl⟩⟩⟩⟩
termination_by sizeOf source
decreasing_by all_goals exact sizeOf_patterns_lt source

theorem exists_addAllTo_iff (sources : List RuleSource) (rules : List Rule)
    (path : Nat → RulePath) (index : Nat)
    : (∃ added, addAllTo rules path index sources = .ok added)
      ↔ ∀ source ∈ sources, source.IsWellFormed := by
  match sources with
  | [] => simp [addAllTo]
  | source :: rest =>
    rw [List.forall_mem_cons, ← exists_addTo_iff source rules (path index)]
    constructor
    . rintro ⟨⟨rules', ids⟩, h⟩
      rcases exists_of_addAllTo_cons_eq_ok h with ⟨inner, id, others, hinner, houter, -⟩
      exact ⟨⟨_, hinner⟩, (exists_addAllTo_iff rest inner path (index + 1)).mp ⟨_, houter⟩⟩
    . rintro ⟨⟨⟨inner, id⟩, hinner⟩, hrest⟩
      rcases (exists_addAllTo_iff rest inner path (index + 1)).mpr hrest with ⟨outer, houter⟩
      unfold addAllTo
      exact exists_bind_iff.mpr ⟨(inner, id), hinner, exists_bind_iff.mpr ⟨outer, houter, _, rfl⟩⟩
termination_by sizeOf sources

end

end RuleSource

namespace GrammarSource

open RuleSource

theorem exists_addEntries_iff {entries : List (String × RuleSource)} (rules : List Rule)
    (ids : SortedMap String RuleId)
    : (∃ added, addEntries rules ids entries = .ok added)
      ↔ ∀ entry ∈ entries, entry.2.IsWellFormed := by
  induction entries generalizing rules ids with
  | nil => simp [addEntries]
  | cons entry rest ih =>
    rcases entry with ⟨name, source⟩
    unfold addEntries
    rw [List.forall_mem_cons, exists_bind_iff, ← exists_addTo_iff source rules (.entry name)]
    constructor
    . rintro ⟨⟨inner, id⟩, hinner, h⟩
      exact ⟨⟨_, hinner⟩, (ih inner _).mp h⟩
    . rintro ⟨⟨⟨inner, id⟩, hinner⟩, hrest⟩
      exact ⟨(inner, id), hinner, (ih inner _).mpr hrest⟩

theorem standsAt_of_addEntries {entries : List (String × RuleSource)} {rules rules' : List Rule}
    {ids ids' : SortedMap String RuleId} (hnodup : (entries.map (·.1)).Nodup)
    (h : addEntries rules ids entries = .ok (rules', ids'))
    : (∃ more, rules' = rules ++ more)
      ∧ ∀ name, match entries.lookup name with
        | some source => ∃ id, ids'.get? name = some id ∧ source.StandsAt rules' id
        | none => ids'.get? name = ids.get? name := by
  induction entries generalizing rules ids with
  | nil =>
    cases h
    exact ⟨⟨[], by simp⟩, fun name => rfl⟩
  | cons entry rest ih =>
    rcases entry with ⟨first, source⟩
    rcases bind_eq_ok_iff.mp h with ⟨⟨inner, id⟩, hinner, h⟩
    rw [List.map_cons, List.nodup_cons] at hnodup
    rcases standsAt_of_addTo source hinner with ⟨⟨more, rfl⟩, hstands⟩
    rcases ih hnodup.2 h with ⟨⟨others, rfl⟩, hlookup⟩
    refine ⟨⟨more ++ others, by simp⟩, ?_⟩
    intro name
    specialize hlookup name
    rw [SortedMap.get?_insert] at hlookup
    rw [SortedMap.lookup_cons]
    by_cases hname : name = first
    . subst hname
      -- names are not repeated, so that no later entry is added under the name
      have hnone : rest.lookup name = none := by
        rw [List.lookup_eq_none_iff]
        intro entry hentry
        rw [bne_iff_ne]
        rintro rfl
        exact hnodup.1 (List.mem_map.mpr ⟨entry, hentry, rfl⟩)
      rw [hnone, if_pos rfl] at hlookup
      rw [if_pos rfl]
      exact ⟨id, hlookup, hstands.append others⟩
    . rw [if_neg hname] at hlookup ⊢
      exact hlookup

theorem exists_arena_iff {source : GrammarSource}
    : (∃ arena, source.arena = .ok arena)
      ↔ (∀ entry ∈ source.repository.entries, entry.2.IsWellFormed)
        ∧ ∀ rule ∈ source.patterns, rule.IsWellFormed := by
  unfold GrammarSource.arena
  rw [exists_bind_iff, ← exists_addEntries_iff [] ∅]
  constructor
  . rintro ⟨⟨rules, repository⟩, hrules, h⟩
    rcases exists_bind_iff.mp h with ⟨added, hadded, -⟩
    exact ⟨⟨_, hrules⟩, (exists_addAllTo_iff source.patterns rules .root 0).mp ⟨added, hadded⟩⟩
  . rintro ⟨⟨⟨rules, repository⟩, hrules⟩, hpatterns⟩
    rcases (exists_addAllTo_iff source.patterns rules .root 0).mpr hpatterns with ⟨added, hadded⟩
    exact ⟨(rules, repository), hrules, exists_bind_iff.mpr ⟨added, hadded, _, rfl⟩⟩

/-- What an arena holds of a written grammar: the root patterns and the entries by their names. -/
structure Holds (source : GrammarSource) (arena : Arena) : Prop where
  patterns : StandAt arena.rules arena.patterns source.patterns
  entry {name : String} {rule : RuleSource} (h : source.repository.get? name = some rule)
    : ∃ id, arena.repository.get? name = some id ∧ rule.StandsAt arena.rules id
  missing {name : String} (h : source.repository.get? name = none)
    : arena.repository.get? name = none

theorem holds_of_arena {source : GrammarSource} {arena : Arena} (h : source.arena = .ok arena)
    : source.Holds arena := by
  rcases bind_eq_ok_iff.mp h with ⟨⟨rules, repository⟩, hrules, h⟩
  rcases bind_eq_ok_iff.mp h with ⟨⟨all, patterns⟩, hall, heq⟩
  cases heq
  rcases standsAt_of_addEntries source.repository.nodup_keys hrules with ⟨-, hlookup⟩
  rcases standAt_of_addAllTo source.patterns hall with ⟨⟨more, rfl⟩, hstand⟩
  constructor
  . exact hstand
  . intro name rule hrule
    specialize hlookup name
    unfold SortedMap.get? at hrule
    rw [hrule] at hlookup
    rcases hlookup with ⟨id, hid, hstands⟩
    exact ⟨id, hid, hstands.append more⟩
  . intro name hname
    specialize hlookup name
    unfold SortedMap.get? at hname
    rw [hname] at hlookup
    exact hlookup

end GrammarSource

end TextScopes
