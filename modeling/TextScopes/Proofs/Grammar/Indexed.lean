import TextScopes.Proofs.Grammar.PostOrder
import TextScopes.Proofs.Grammar.ScanOrder
import TextScopes.Proofs.Grammar.Sound

/-!
This module contains that all numbers of rules that a grammar holds are numbers of its rules: those
inside rules, of entries and of root patterns, and those found by resolving includes.
-/

namespace TextScopes

open RuleSource

def ChildrenBelow (bound : Nat) (rules : List Rule) : Prop :=
  ∀ rule ∈ rules, ∀ id ∈ rule.children, id < bound

/-- Whether all numbers of rules in an arena are numbers of its rules. -/
structure Arena.IsIndexed (arena : Arena) : Prop where
  children : ChildrenBelow arena.rules.length arena.rules
  repository : ∀ entry ∈ arena.repository.entries, entry.2 < arena.rules.length
  patterns : ∀ id ∈ arena.patterns, id < arena.rules.length

structure Grammar.IsIndexed (grammar : Grammar) : Prop extends grammar.arena.IsIndexed where
  root : ∀ id ∈ grammar.resolution.root.rules, id < grammar.ruleCount
  regions : ∀ entry ∈ grammar.resolution.regions,
    entry.1 < grammar.ruleCount ∧ ∀ id ∈ entry.2.rules, id < grammar.ruleCount
  scanOrder : ∀ id ∈ grammar.resolution.scanOrder, id < grammar.ruleCount

theorem ChildrenBelow.append {bound bound' : Nat} {rules others : List Rule}
    (h : ChildrenBelow bound rules) (hothers : ChildrenBelow bound' others) (hle : bound ≤ bound')
    : ChildrenBelow bound' (rules ++ others) := by
  intro rule hrule id hid
  rcases List.mem_append.mp hrule with hrule | hrule
  . exact Nat.lt_of_lt_of_le (h rule hrule id hid) hle
  . exact hothers rule hrule id hid

namespace IsBlock

variable {start : Nat} {rules : List Rule} {ids : List RuleId} {sources : List RuleSource}

theorem childrenBelow (h : IsBlock start rules ids sources)
    : ChildrenBelow (start + rules.length) rules := by
  intro rule hrule id hid
  have hmem := List.mem_append_left ids (List.mem_flatMap.mpr ⟨rule, hrule, hid⟩)
  exact (List.mem_range'_1.mp (h.perm.mem_iff.mp hmem)).2

theorem lt_of_mem (h : IsBlock start rules ids sources) {id : RuleId} (hid : id ∈ ids)
    : id < start + rules.length := by
  have hmem := List.mem_append_right (rules.flatMap Rule.children) hid
  exact (List.mem_range'_1.mp (h.perm.mem_iff.mp hmem)).2

end IsBlock

namespace GrammarSource

theorem isIndexed_of_addEntries {entries : List (String × RuleSource)} {rules rules' : List Rule}
    {ids ids' : SortedMap String RuleId} (hrules : ChildrenBelow rules.length rules)
    (hids : ∀ entry ∈ ids.entries, entry.2 < rules.length)
    (h : addEntries rules ids entries = .ok (rules', ids'))
    : rules'.length = rules.length + (postOrderAll (entries.map (·.2))).length
      ∧ ChildrenBelow rules'.length rules'
      ∧ ∀ entry ∈ ids'.entries, entry.2 < rules'.length := by
  induction entries generalizing rules ids with
  | nil =>
    cases h
    exact ⟨rfl, hrules, hids⟩
  | cons entry rest ih =>
    rcases entry with ⟨name, source⟩
    rcases bind_eq_ok_iff.mp h with ⟨⟨inner, id⟩, hinner, h⟩
    rcases isBlock_of_addTo source hinner with ⟨block, rfl, hblock⟩
    have hlength : (rules ++ block).length = rules.length + block.length := List.length_append
    have hinnerBelow : ChildrenBelow (rules ++ block).length (rules ++ block) := by
      rw [hlength]
      exact hrules.append hblock.childrenBelow (Nat.le_add_right _ _)
    have hinnerIds : ∀ entry ∈ (ids.insert name id).entries, entry.2 < (rules ++ block).length := by
      intro entry hentry
      rw [hlength]
      have hentry : entry ∈ SortedMap.insertEntry name id ids.entries := hentry
      rcases SortedMap.mem_insertEntry hentry with rfl | hentry
      . exact hblock.lt_of_mem List.mem_cons_self
      . exact Nat.lt_of_lt_of_le (hids entry hentry) (Nat.le_add_right _ _)
    rcases ih hinnerBelow hinnerIds h with ⟨hrest, hbelow⟩
    refine ⟨?_, hbelow⟩
    rw [hrest, length_of_addTo hinner, List.map_cons, postOrderAll, List.length_append,
      Nat.add_assoc]

theorem isIndexed_of_entries {entries : List (String × RuleSource)} {rules : List Rule}
    {ids : SortedMap String RuleId} (h : addEntries [] ∅ entries = .ok (rules, ids))
    : rules.length = (postOrderAll (entries.map (·.2))).length
      ∧ ChildrenBelow rules.length rules
      ∧ ∀ entry ∈ ids.entries, entry.2 < rules.length := by
  have hrules : ChildrenBelow 0 [] := fun rule hrule => absurd hrule List.not_mem_nil
  have hids : ∀ entry ∈ (∅ : SortedMap String RuleId).entries, entry.2 < 0 :=
    fun entry hentry => absurd hentry List.not_mem_nil
  rcases isIndexed_of_addEntries hrules hids h with ⟨hlength, hbelow⟩
  rw [List.length_nil, Nat.zero_add] at hlength
  exact ⟨hlength, hbelow⟩

theorem isIndexed_of_arena {source : GrammarSource} {arena : Arena} (h : source.arena = .ok arena)
    : arena.IsIndexed := by
  rcases bind_eq_ok_iff.mp h with ⟨⟨rules, repository⟩, hrules, h⟩
  rcases bind_eq_ok_iff.mp h with ⟨⟨all, patterns⟩, hall, heq⟩
  cases heq
  rcases isIndexed_of_entries hrules with ⟨-, hchildren, hrepository⟩
  rcases isBlock_of_addAllTo source.patterns hall with ⟨block, rfl, hblock⟩
  have hlength : (rules ++ block).length = rules.length + block.length := List.length_append
  constructor
  . dsimp only
    rw [hlength]
    exact hchildren.append hblock.childrenBelow (Nat.le_add_right _ _)
  . intro entry hentry
    dsimp only
    rw [hlength]
    exact Nat.lt_of_lt_of_le (hrepository entry hentry) (Nat.le_add_right _ _)
  . intro id hid
    dsimp only
    rw [hlength]
    exact hblock.lt_of_mem hid

end GrammarSource

namespace Arena

variable {arena : Arena} {id : RuleId} {ids : List RuleId} {rule : Rule}

theorem lt_of_rule? (h : arena.rule? id = some rule) : id < arena.rules.length :=
  (List.getElem?_eq_some_iff.mp h).1

theorem exists_rule?_of_lt (h : id < arena.rules.length) : ∃ rule, arena.rule? id = some rule :=
  ⟨arena.rules[id], List.getElem?_eq_getElem h⟩

theorem IsIndexed.lt_of_mem_standIns (h : arena.IsIndexed) (hrule : arena.rule? id = some rule)
    (hstand : arena.standIns rule = .ok (some ids)) {other : RuleId} (hother : other ∈ ids)
    : other < arena.rules.length := by
  have hmem := List.mem_of_getElem? hrule
  unfold standIns at hstand
  split at hstand
  . cases hstand
  . cases hstand
  . next hkind =>
    cases hstand
    apply h.children rule hmem
    unfold Rule.children
    rw [hkind]
    exact hother
  . cases hstand
    exact h.patterns other hother
  . split at hstand
    . next entry hentry =>
      cases hstand
      rw [List.mem_singleton.mp hother]
      exact h.repository _ (SortedMap.mem_of_get? hentry)
    . cases hstand

theorem IsIndexed.lt_of_mem_patterns (h : arena.IsIndexed) {region : Region}
    (hregion : arena.region? id = some region) {child : RuleId} (hchild : child ∈ region.patterns)
    : child < arena.rules.length := by
  rcases Option.bind_eq_some_iff.mp hregion with ⟨rule, hrule, hkind⟩
  apply h.children rule (List.mem_of_getElem? hrule)
  unfold Rule.region? at hkind
  unfold Rule.children
  split at hkind
  . next hkind' =>
    cases hkind
    rw [hkind']
    exact hchild
  . contradiction

theorem lt_of_resolveSet {patterns : List RuleId} {set : ActiveSet}
    (h : arena.resolveSet patterns = .ok set) (hid : id ∈ set.rules) : id < arena.rules.length := by
  rcases (((resolves_resolveSet h).mem_iff id).mp hid).2 with ⟨rule, hrule, -⟩
  exact lt_of_rule? hrule

end Arena

theorem Grammar.exists_rule?_of_lt {grammar : Grammar} {id : RuleId} (h : id < grammar.ruleCount)
    : ∃ rule, grammar.rule? id = some rule :=
  Arena.exists_rule?_of_lt h

theorem GrammarSource.isIndexed_of_build {source : GrammarSource} {grammar : Grammar}
    (h : source.build = .ok grammar) : grammar.IsIndexed := by
  rcases exists_of_build_eq_ok h with ⟨harena, hresolution⟩
  rcases Arena.exists_search_of_resolve hresolution with ⟨hroot, hsearch⟩
  have hscanOrder : ∀ id ∈ grammar.resolution.scanOrder, id < grammar.ruleCount := by
    intro id hid
    rcases hsearch.matcher id (List.mem_append_left _ hid) with ⟨rule, hrule, -⟩
    exact Arena.lt_of_rule? hrule
  refine ⟨isIndexed_of_arena harena, fun id => Arena.lt_of_resolveSet hroot, ?_, hscanOrder⟩
  intro entry hentry
  rw [hsearch.regions] at hentry
  rcases List.mem_filterMap.mp hentry with ⟨id, hid, hentry⟩
  rcases Option.map_eq_some_iff.mp hentry with ⟨set, hset, rfl⟩
  rcases Arena.inside?_eq_some_iff.mp hset with ⟨region, -, hset⟩
  exact ⟨hscanOrder id hid, fun child => Arena.lt_of_resolveSet hset⟩

end TextScopes
