import Mathlib.Data.List.Nodup
import TextScopes.Proofs.Grammar.ReadBack

/-!
This module contains where rules stand in a grammar: among the root patterns, in the repository or
inside another rule. The numbers of rules stand for their paths: a rule has one number and is found
on one path only.
-/

namespace TextScopes.Arena

def at? (arena : Arena) : RulePath → Option RuleId
  | .firstLine => none
  | .entry name => arena.repository.get? name
  | .root index => arena.patterns[index]?
  | .child parent index => do
    let id ← arena.at? parent
    let rule ← arena.rule? id
    rule.children[index]?

/-- Whether every rule is listed once: as an entry, as a root pattern or inside another rule. -/
def IsForest (arena : Arena) : Prop :=
  (arena.rules.flatMap Rule.children
    ++ (arena.repository.entries.map (·.2) ++ arena.patterns)).Nodup

variable {arena : Arena} {path path' : RulePath} {parent parent' id : RuleId} {index index' : Nat}
  {rule : Rule}

theorem at?_child_eq_some_iff
    : arena.at? (.child path index) = some id
      ↔ ∃ parent rule, arena.at? path = some parent ∧ arena.rule? parent = some rule
        ∧ rule.children[index]? = some id := by
  simp only [at?, Option.bind_eq_bind, Option.bind_eq_some_iff]
  constructor
  . rintro ⟨parent, hparent, rule, hrule, hchild⟩
    exact ⟨parent, rule, hparent, hrule, hchild⟩
  . rintro ⟨parent, rule, hparent, hrule, hchild⟩
    exact ⟨parent, hparent, rule, hrule, hchild⟩

theorem mem_children_of_at? (h : arena.at? (.child path index) = some id)
    : id ∈ arena.rules.flatMap Rule.children := by
  rcases at?_child_eq_some_iff.mp h with ⟨parent, rule, -, hrule, hchild⟩
  exact List.mem_flatMap.mpr ⟨rule, List.mem_of_getElem? hrule, List.mem_of_getElem? hchild⟩

theorem mem_entries_of_at? {name : String} (h : arena.at? (.entry name) = some id)
    : id ∈ arena.repository.entries.map (·.2) :=
  List.mem_map.mpr ⟨(name, id), SortedMap.mem_of_get? h, rfl⟩

theorem mem_patterns_of_at? (h : arena.at? (.root index) = some id) : id ∈ arena.patterns :=
  List.mem_of_getElem? h

theorem Reaches.exists_at? (h : arena.Reaches id) : ∃ path, arena.at? path = some id := by
  have hchild {id child : RuleId} {rule : Rule} (hpath : ∃ path, arena.at? path = some id)
      (hrule : arena.rule? id = some rule) (hchild : child ∈ rule.children)
      : ∃ path, arena.at? path = some child := by
    rcases hpath with ⟨path, hpath⟩
    rcases List.mem_iff_getElem?.mp hchild with ⟨index, hindex⟩
    exact ⟨.child path index, at?_child_eq_some_iff.mpr ⟨id, rule, hpath, hrule, hindex⟩⟩
  have hpattern {id : RuleId} (hid : id ∈ arena.patterns) : ∃ path, arena.at? path = some id := by
    rcases List.mem_iff_getElem?.mp hid with ⟨index, hindex⟩
    exact ⟨.root index, hindex⟩
  induction h with
  | pattern hid => exact hpattern hid
  | follow _ hfollows ih =>
    rcases hfollows with ⟨rule, ids, hrule, hstand⟩
    rcases Follows.cases ⟨rule, ids, hrule, hstand⟩ hrule with hnext | hnext | ⟨name, -, hnext⟩
    . exact hchild ih hrule hnext
    . exact hpattern hnext
    . exact ⟨.entry name, hnext⟩
  | inside _ hregion hmem ih =>
    rcases Option.bind_eq_some_iff.mp hregion with ⟨rule, hrule, hkind⟩
    rw [← Rule.children_of_region? hkind] at hmem
    exact hchild ih hrule hmem

theorem isForest_of_arena {source : GrammarSource} (h : source.arena = .ok arena)
    : arena.IsForest := by
  have hblock := (GrammarSource.isBlock_of_arena h).2.2
  exact hblock.perm.nodup_iff.mpr List.nodup_range'

namespace IsForest

theorem parent_eq (h : arena.IsForest) {rule rule' : Rule} (hrule : arena.rule? parent = some rule)
    (hrule' : arena.rule? parent' = some rule') (hchild : id ∈ rule.children)
    (hchild' : id ∈ rule'.children) : parent = parent' := by
  have hnodup : (arena.rules.flatMap Rule.children).Nodup := List.Nodup.of_append_left h
  have hdisjoint := List.pairwise_iff_getElem.mp (List.nodup_flatMap.mp hnodup).2
  rcases List.getElem?_eq_some_iff.mp hrule with ⟨hlt, rfl⟩
  rcases List.getElem?_eq_some_iff.mp hrule' with ⟨hlt', rfl⟩
  rcases Nat.lt_trichotomy parent parent' with hparent | hparent | hparent
  . exact absurd hchild' (hdisjoint parent parent' hlt hlt' hparent hchild)
  . exact hparent
  . exact absurd hchild (hdisjoint parent' parent hlt' hlt hparent hchild')

theorem path_eq (h : arena.IsForest) (hpath : arena.at? path = some id)
    (hpath' : arena.at? path' = some id) : path = path' := by
  rcases List.nodup_append'.mp h with ⟨hchildren, hrest, hinside⟩
  rcases List.nodup_append'.mp hrest with ⟨hentries, hpatterns, hroot⟩
  have hentry {name : String} {id : RuleId} (hid : arena.at? (.entry name) = some id)
      : id ∉ arena.rules.flatMap Rule.children :=
    fun hmem => hinside hmem (List.mem_append_left _ (mem_entries_of_at? hid))
  have hpattern {index : Nat} {id : RuleId} (hid : arena.at? (.root index) = some id)
      : id ∉ arena.rules.flatMap Rule.children :=
    fun hmem => hinside hmem (List.mem_append_right _ (mem_patterns_of_at? hid))
  -- a rule is an entry, a root pattern or inside another rule, and only one of these
  induction path generalizing path' id with
  | firstLine => contradiction
  | entry name =>
    cases path' with
    | firstLine => contradiction
    | entry name' =>
      have heq := List.inj_on_of_nodup_map hentries (SortedMap.mem_of_get? hpath)
        (SortedMap.mem_of_get? hpath') rfl
      cases heq
      rfl
    | root index => exact absurd (mem_patterns_of_at? hpath') (hroot (mem_entries_of_at? hpath))
    | child path' index => exact absurd (mem_children_of_at? hpath') (hentry hpath)
  | root index =>
    cases path' with
    | firstLine => contradiction
    | entry name => exact absurd (mem_patterns_of_at? hpath) (hroot (mem_entries_of_at? hpath'))
    | root index' =>
      have hlt := (List.getElem?_eq_some_iff.mp hpath).1
      rw [(List.getElem?_inj hlt hpatterns).mp (hpath.trans hpath'.symm)]
    | child path' index' => exact absurd (mem_children_of_at? hpath') (hpattern hpath)
  | child path index ih =>
    cases path' with
    | firstLine => contradiction
    | entry name => exact absurd (mem_children_of_at? hpath) (hentry hpath')
    | root index' => exact absurd (mem_children_of_at? hpath) (hpattern hpath')
    | child path' index' =>
      rcases at?_child_eq_some_iff.mp hpath with ⟨parent, rule, hparent, hrule, hchild⟩
      rcases at?_child_eq_some_iff.mp hpath' with ⟨parent', rule', hparent', hrule', hchild'⟩
      obtain rfl := h.parent_eq hrule hrule' (List.mem_of_getElem? hchild)
        (List.mem_of_getElem? hchild')
      cases hrule.symm.trans hrule'
      have hlt := (List.getElem?_eq_some_iff.mp hchild).1
      have hnodup := (List.nodup_flatMap.mp hchildren).1 rule (List.mem_of_getElem? hrule)
      rw [ih hparent hparent', (List.getElem?_inj hlt hnodup).mp (hchild.trans hchild'.symm)]

end IsForest

end TextScopes.Arena
