import TextScopes.Builtin.Json
import TextScopes.Proofs.Grammar.Encode
import TextScopes.Proofs.Grammar.Resolve
import TextScopes.Proofs.Text.Blank

/-!
This module contains which grammars build: those that have a name, in which every rule is
well-formed and in which every include that can be reached names an entry of the repository.
-/

namespace TextScopes

/-- Whether a written rule is reached from the root patterns, through the rules inside rules and
through includes of entries. Other includes lead to the root patterns, which are reached anyway. -/
inductive GrammarSource.Reaches (source : GrammarSource) : RuleSource → Prop
  | pattern {rule : RuleSource} (h : rule ∈ source.patterns) : Reaches source rule
  | inside {rule child : RuleSource} {children : List RuleSource} (h : Reaches source rule)
    (hchildren : rule.patterns = some children) (hchild : child ∈ children) : Reaches source child
  | entry {rule next : RuleSource} {target name : String} (h : Reaches source rule)
    (htarget : rule.includeTarget = some target) (hname : target.toList = '#' :: name.toList)
    (hnext : source.repository.get? name = some next) : Reaches source next

structure GrammarSource.IsWellFormed (source : GrammarSource) : Prop where
  scopeName : ∃ c ∈ source.scopeName.toList, ¬ isBlank c
  firstLineMatch : ∀ pattern, source.firstLineMatch = some pattern → Regex.Compiles pattern
  repository : ∀ entry ∈ source.repository.entries, entry.2.IsWellFormed
  patterns : ∀ rule ∈ source.patterns, rule.IsWellFormed
  includes : ∀ rule, source.Reaches rule → ∀ target, rule.includeTarget = some target →
    ∀ name : String, target.toList = '#' :: name.toList → name ∈ source.repository.keys

theorem Include.read_eq_entry_iff {target name : String}
    : Include.read target = .ok (.entry name) ↔ target.toList = '#' :: name.toList := by
  unfold Include.read
  split
  . next chars hchars =>
    rw [hchars]
    constructor
    . intro h
      cases h
      simp
    . intro h
      cases h
      simp
  . next hchars =>
    constructor
    . intro h
      split at h
      . cases h
      . cases h
    . intro h
      exact absurd h (hchars _)

theorem Rule.children_of_region? {rule : Rule} {region : Region} (h : rule.region? = some region)
    : rule.children = region.patterns := by
  unfold Rule.region? at h
  split at h
  . next hkind =>
    cases h
    simp only [Rule.children, hkind]
  . contradiction

namespace Arena

variable {arena : Arena} {id next : RuleId} {rule : Rule}

theorem isSettled_iff (hrule : arena.rule? id = some rule)
    : arena.IsSettled id
      ↔ ∀ name, rule.kind = .reference (.entry name) → ∃ id, arena.repository.get? name = some id
    := by
  constructor
  . intro h name hkind
    rcases h rule hrule with ⟨ids, hids⟩
    unfold standIns at hids
    rw [hkind] at hids
    dsimp only at hids
    split at hids
    . next id hid => exact ⟨id, hid⟩
    . contradiction
  . intro h rule' hrule'
    obtain rfl : rule = rule' := Option.some.inj (hrule.symm.trans hrule')
    unfold standIns
    split
    . exact ⟨_, rfl⟩
    . exact ⟨_, rfl⟩
    . exact ⟨_, rfl⟩
    . exact ⟨_, rfl⟩
    . next name hkind =>
      rcases h name hkind with ⟨id, hid⟩
      exact ⟨some [id], by rw [hid]⟩

theorem Follows.cases (h : arena.Follows id next) (hrule : arena.rule? id = some rule)
    : next ∈ rule.children
      ∨ next ∈ arena.patterns
      ∨ ∃ name, rule.kind = .reference (.entry name) ∧ arena.repository.get? name = some next := by
  rcases h with ⟨rule', ids, hrule', hids, hnext⟩
  obtain rfl : rule = rule' := Option.some.inj (hrule.symm.trans hrule')
  unfold standIns at hids
  split at hids
  . cases hids
  . cases hids
  . next patterns hkind =>
    cases hids
    left
    unfold Rule.children
    rw [hkind]
    exact hnext
  . cases hids
    exact Or.inr (Or.inl hnext)
  . next name hkind =>
    split at hids
    . next entry hentry =>
      cases hids
      rw [List.mem_singleton] at hnext
      exact Or.inr (Or.inr ⟨name, hkind, hnext ▸ hentry⟩)
    . contradiction

theorem Reaches.child (h : arena.Reaches id) (hrule : arena.rule? id = some rule)
    (hnext : next ∈ rule.children) : arena.Reaches next := by
  unfold Rule.children at hnext
  split at hnext
  . next region hkind =>
    have hregion : (arena.rule? id).bind Rule.region? = some region := by
      simp [hrule, Rule.region?, hkind]
    exact h.inside hregion hnext
  . next patterns hkind =>
    exact h.follow ⟨rule, patterns, hrule, by simp [standIns, hkind], hnext⟩
  . contradiction

theorem Reaches.entry {name : String} (h : arena.Reaches id) (hrule : arena.rule? id = some rule)
    (hkind : rule.kind = .reference (.entry name)) (hnext : arena.repository.get? name = some next)
    : arena.Reaches next :=
  h.follow ⟨rule, [next], hrule, by simp [standIns, hkind, hnext], by simp⟩

end Arena

namespace RuleSource

theorem patterns_of_toRegion {source : RuleSource} {path : RulePath} {opening closing : String}
    {ids : List RuleId} {region : Region}
    (h : source.toRegion path opening closing ids = .ok region) : region.patterns = ids := by
  rcases exists_of_toRegion_eq_ok h with ⟨_, _, _, _, -, -, -, -, rfl⟩
  rfl

theorem StandsAt.exists_rule {source : RuleSource} {rules : List Rule} {id : RuleId}
    (h : source.StandsAt rules id)
    : ∃ rule, rules[id]? = some rule
      ∧ StandAt rules rule.children (source.patterns.getD [])
      ∧ ∀ name, rule.kind = .reference (.entry name) ↔
          ∃ target, source.includeTarget = some target ∧ target.toList = '#' :: name.toList := by
  rcases h with ⟨hmode, hkind, hrule, hlength, hchildren⟩
  refine ⟨_, hrule, ?_⟩
  cases (mode_eq_ok_iff.mp hmode).2 with
  | reference hinclude _ _ _ hpatterns =>
    rcases map_eq_ok_iff.mp hkind with ⟨included, hincluded, rfl⟩
    refine ⟨by simp [StandAt, Rule.children, hpatterns], ?_⟩
    intro name
    simp [hinclude, ← Include.read_eq_entry_iff, hincluded]
  | matching hinclude _ _ _ hpatterns =>
    rcases bind_eq_ok_iff.mp hkind with ⟨regex, -, hkind⟩
    rcases bind_eq_ok_iff.mp hkind with ⟨captures, -, heq⟩
    cases heq
    exact ⟨by simp [StandAt, Rule.children, hpatterns], by simp [hinclude]⟩
  | region hinclude =>
    rcases map_eq_ok_iff.mp hkind with ⟨region, hregion, rfl⟩
    refine ⟨?_, by simp [hinclude]⟩
    unfold Rule.children
    dsimp only
    rw [patterns_of_toRegion hregion]
    exact ⟨hlength, hchildren⟩
  | container hinclude =>
    cases hkind
    exact ⟨⟨hlength, hchildren⟩, by simp [hinclude]⟩

end RuleSource

namespace GrammarSource

variable {source : GrammarSource} {arena : Arena} {id : RuleId} {rule : RuleSource}

theorem Holds.exists_source_of_reaches (h : source.Holds arena) (hid : arena.Reaches id)
    : ∃ rule, source.Reaches rule ∧ rule.StandsAt arena.rules id := by
  have hpattern {id : RuleId} (hid : id ∈ arena.patterns)
      : ∃ rule, source.Reaches rule ∧ rule.StandsAt arena.rules id := by
    rcases h.patterns.exists_source hid with ⟨rule, hrule, hstands⟩
    exact ⟨rule, .pattern hrule, hstands⟩
  have hinside {written : RuleSource} {rule : Rule} {child : RuleId}
      (hreaches : source.Reaches written)
      (hstand : RuleSource.StandAt arena.rules rule.children (written.patterns.getD []))
      (hchild : child ∈ rule.children)
      : ∃ rule, source.Reaches rule ∧ rule.StandsAt arena.rules child := by
    rcases hstand.exists_source hchild with ⟨inner, hinner, hstands⟩
    cases hpatterns : written.patterns with
    | none => simp [hpatterns] at hinner
    | some children =>
      rw [hpatterns] at hinner
      exact ⟨inner, hreaches.inside hpatterns hinner, hstands⟩
  -- the written rule is reached the way the rule is: from a pattern, an include or a rule around
  induction hid with
  | pattern hid => exact hpattern hid
  | follow _ hfollows ih =>
    rcases ih with ⟨written, hreaches, hstands⟩
    rcases hstands.exists_rule with ⟨rule, hrule, hstand, hinclude⟩
    rcases hfollows.cases hrule with hnext | hnext | ⟨name, hkind, hnext⟩
    . exact hinside hreaches hstand hnext
    . exact hpattern hnext
    . rcases (hinclude name).mp hkind with ⟨target, htarget, hname⟩
      cases hentry : source.repository.get? name with
      | none =>
        rw [h.missing hentry] at hnext
        contradiction
      | some entry =>
        rcases h.entry hentry with ⟨id, hid, hstands⟩
        obtain rfl := Option.some.inj (hid.symm.trans hnext)
        exact ⟨entry, hreaches.entry htarget hname hentry, hstands⟩
  | inside _ hregion hchild ih =>
    rcases ih with ⟨written, hreaches, hstands⟩
    rcases hstands.exists_rule with ⟨rule, hrule, hstand, -⟩
    apply hinside hreaches hstand
    rcases Option.bind_eq_some_iff.mp hregion with ⟨rule', hrule', hkind⟩
    obtain rfl := Option.some.inj (hrule.symm.trans hrule')
    rw [Rule.children_of_region? hkind]
    exact hchild

theorem Holds.exists_id_of_reaches (h : source.Holds arena) (hrule : source.Reaches rule)
    : ∃ id, arena.Reaches id ∧ rule.StandsAt arena.rules id := by
  induction hrule with
  | pattern hrule =>
    rcases h.patterns.exists_id hrule with ⟨id, hid, hstands⟩
    exact ⟨id, .pattern hid, hstands⟩
  | inside _ hchildren hchild ih =>
    rcases ih with ⟨id, hid, hstands⟩
    rcases hstands.exists_rule with ⟨rule, hrule, hstand, -⟩
    rw [hchildren] at hstand
    rcases hstand.exists_id hchild with ⟨next, hnext, hstands⟩
    exact ⟨next, hid.child hrule hnext, hstands⟩
  | entry _ htarget hname hnext ih =>
    rcases ih with ⟨id, hid, hstands⟩
    rcases hstands.exists_rule with ⟨rule, hrule, -, hinclude⟩
    rcases h.entry hnext with ⟨next, hentry, hstands⟩
    exact ⟨next, hid.entry hrule ((hinclude _).mpr ⟨_, htarget, hname⟩) hentry, hstands⟩

/-- The includes that can be reached resolve exactly if each names an entry of the repository. -/
theorem Holds.exists_resolve_iff (h : source.Holds arena)
    : (∃ resolution, arena.resolve = .ok resolution)
      ↔ ∀ rule, source.Reaches rule → ∀ target, rule.includeTarget = some target →
          ∀ name : String, target.toList = '#' :: name.toList → name ∈ source.repository.keys := by
  rw [Arena.exists_resolve_iff]
  constructor
  . intro hsettled rule hrule target htarget name hname
    rcases h.exists_id_of_reaches hrule with ⟨id, hid, hstands⟩
    rcases hstands.exists_rule with ⟨encoded, hencoded, -, hinclude⟩
    rcases (Arena.isSettled_iff hencoded).mp (hsettled id hid) name
      ((hinclude name).mpr ⟨target, htarget, hname⟩) with ⟨entry, hentry⟩
    rw [SortedMap.mem_keys_iff]
    cases hget : source.repository.get? name with
    | none =>
      rw [h.missing hget] at hentry
      contradiction
    | some rule => exact ⟨rule, rfl⟩
  . intro hkeys id hid
    rcases h.exists_source_of_reaches hid with ⟨rule, hrule, hstands⟩
    rcases hstands.exists_rule with ⟨encoded, hencoded, -, hinclude⟩
    rw [Arena.isSettled_iff hencoded]
    intro name hkind
    rcases (hinclude name).mp hkind with ⟨target, htarget, hname⟩
    rcases SortedMap.mem_keys_iff.mp (hkeys rule hrule target htarget name hname)
      with ⟨entry, hentry⟩
    rcases h.entry hentry with ⟨id, hid, -⟩
    exact ⟨id, hid⟩

theorem exists_build_iff_exists_arena
    : (∃ grammar, source.build = .ok grammar)
      ↔ (∃ c ∈ source.scopeName.toList, ¬ isBlank c)
        ∧ (∀ pattern, source.firstLineMatch = some pattern → Regex.Compiles pattern)
        ∧ ∃ arena, source.arena = .ok arena ∧ ∃ resolution, arena.resolve = .ok resolution := by
  have hblank : (∃ c ∈ source.scopeName.toList, ¬ isBlank c)
      ↔ ¬ (trimBlanks source.scopeName.toList).isEmpty := by
    rw [isEmpty_trimBlanks_iff]
    simp
  unfold build
  dsimp only
  rw [hblank]
  split
  . next hempty => simp [hempty]
  . next hempty =>
    split
    . next pattern hpattern =>
      simp [exists_bind_iff, exists_map_iff, exists_compileAt_iff, hempty, hpattern]
    . next hpattern => simp [exists_bind_iff, hempty, hpattern]

theorem isWellFormed_of_build {grammar : Grammar} (h : source.build = .ok grammar)
    : source.IsWellFormed := by
  rcases exists_build_iff_exists_arena.mp ⟨grammar, h⟩
    with ⟨hscope, hfirst, arena, harena, hresolution⟩
  rcases exists_arena_iff.mp ⟨arena, harena⟩ with ⟨hrepository, hpatterns⟩
  have hincludes := (holds_of_arena harena).exists_resolve_iff.mp hresolution
  exact ⟨hscope, hfirst, hrepository, hpatterns, hincludes⟩

theorem IsWellFormed.exists_build (h : source.IsWellFormed)
    : ∃ grammar, source.build = .ok grammar := by
  rcases exists_arena_iff.mpr ⟨h.repository, h.patterns⟩ with ⟨arena, harena⟩
  have hresolution := (holds_of_arena harena).exists_resolve_iff.mpr h.includes
  exact exists_build_iff_exists_arena.mpr
    ⟨h.scopeName, h.firstLineMatch, arena, harena, hresolution⟩

/-- The grammars that build are the well-formed ones. -/
theorem exists_build_iff_isWellFormed
    : (∃ grammar, source.build = .ok grammar) ↔ source.IsWellFormed := by
  constructor
  . rintro ⟨grammar, h⟩
    exact isWellFormed_of_build h
  . intro h
    exact h.exists_build

theorem isWellFormed_json : Builtin.json.IsWellFormed := by
  have hbuild : Builtin.json.build.isOk := by decide +kernel
  refine exists_build_iff_isWellFormed.mp ?_
  cases h : Builtin.json.build with
  | error error =>
    rw [h] at hbuild
    contradiction
  | ok grammar => exact ⟨grammar, rfl⟩

end GrammarSource

end TextScopes
