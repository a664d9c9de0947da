import Mathlib.Data.String.Basic
import Mathlib.Logic.Relation
import TextScopes.Proofs.Builtin.JsonRules
import TextScopes.Proofs.Grammar.PostOrder
import TextScopes.Proofs.Grammar.Sound

/-!
This module contains what the list of all rules of a grammar says of the written grammar. Every rule
has one number, and reading the list back from the entries and the root patterns gives the written
rules in their order and nesting, without the fields that their modes do not use.
-/

namespace TextScopes

open RuleSource

namespace RuleSource

variable {all : List RuleSource} {sources : List RuleSource} {first number : Nat}

theorem isPrefix_drop_of_cons {source : RuleSource}
    (h : postOrderAll (source :: sources) <+: all.drop first)
    : IsSubtree all first (first + source.innerCount) source
      ∧ postOrderAll sources <+: all.drop (first + source.innerCount + 1) := by
  rw [postOrderAll] at h
  refine ⟨⟨rfl, (List.prefix_append _ _).trans h⟩, ?_⟩
  rcases h with ⟨more, hmore⟩
  refine ⟨more, ?_⟩
  rw [Nat.add_assoc, ← length_postOrder, ← List.drop_drop, ← hmore, List.append_assoc,
    List.drop_left]

theorem forall₂_idsFrom (h : postOrderAll sources <+: all.drop first)
    : List.Forall₂ (fun id source => ∃ start, IsSubtree all start id source ∧ first ≤ start
        ∧ id < first + (postOrderAll sources).length) (idsFrom first sources) sources := by
  induction sources generalizing first with
  | nil => exact .nil
  | cons source rest ih =>
    rcases isPrefix_drop_of_cons h with ⟨hsource, hrest⟩
    rw [postOrderAll, List.length_append, length_postOrder]
    refine .cons ⟨first, hsource, Nat.le_refl _, by omega⟩ ((ih hrest).imp ?_)
    rintro id source ⟨start, hsubtree, hstart, hid⟩
    exact ⟨start, hsubtree, by omega, by omega⟩

theorem exists_mem_idsFrom (h : postOrderAll sources <+: all.drop first) (hfirst : first ≤ number)
    (hlast : number < first + (postOrderAll sources).length)
    : ∃ id : Nat, id ∈ idsFrom first sources ∧ ∃ source start, IsSubtree all start id source
        ∧ start ≤ number ∧ number ≤ id ∧ id < first + (postOrderAll sources).length := by
  induction sources generalizing first with
  | nil =>
    rw [postOrderAll, List.length_nil] at hlast
    omega
  | cons source rest ih =>
    rcases isPrefix_drop_of_cons h with ⟨hsource, hrest⟩
    rw [postOrderAll, List.length_append, length_postOrder] at hlast ⊢
    by_cases hnumber : number ≤ first + source.innerCount
    . exact ⟨_, List.mem_cons_self, source, first, hsource, hfirst, hnumber, by omega⟩
    . rcases ih hrest (by omega) (by omega)
        with ⟨id, hid, source, start, hsubtree, hstart, hend, hlt⟩
      exact ⟨id, List.mem_cons_of_mem _ hid, source, start, hsubtree, hstart, hend, by omega⟩

end RuleSource

theorem IsSubtree.inside {all : List RuleSource} {first id : Nat} {written : RuleSource}
    (h : IsSubtree all first id written)
    : postOrderAll (written.patterns.getD []) <+: all.drop first := by
  have hblock := h.block
  rw [postOrder_eq] at hblock
  exact (List.prefix_append _ _).trans hblock

theorem exists_of_forall₂ {α β : Type} {R : α → β → Prop} {as : List α} {bs : List β} {a : α}
    (h : List.Forall₂ R as bs) (ha : a ∈ as) : ∃ b ∈ bs, R a b := by
  induction h with
  | nil => contradiction
  | cons hhead _ ih =>
    rcases List.mem_cons.mp ha with rfl | ha
    . exact ⟨_, List.mem_cons_self, hhead⟩
    . rcases ih ha with ⟨b, hb, hrel⟩
      exact ⟨b, List.mem_cons_of_mem _ hb, hrel⟩

theorem mapM_eq_some_map {α β γ : Type} {f : α → Option β} {g : γ → β} {as : List α} {cs : List γ}
    (h : List.Forall₂ (fun a c => f a = some (g c)) as cs) : as.mapM f = some (cs.map g) := by
  induction h with
  | nil => rfl
  | cons hhead _ ih => simp [List.mapM_cons, hhead, ih]

namespace Arena

def HasChild (arena : Arena) (id child : RuleId) : Prop :=
  ∃ rule, arena.rule? id = some rule ∧ child ∈ rule.children

/-- The rule with a number, together with the rules inside it. A rule stands behind those inside it,
so the number of rules bounds the depth. -/
def readBack? (arena : Arena) (id : RuleId) : Option RuleTree := arena.tree? arena.rules.length id

end Arena

namespace IsBlock

variable {arena : Arena} {ids : List RuleId} {sources : List RuleSource} {first id number : Nat}
  {written : RuleSource}

theorem exists_rule (h : IsBlock 0 arena.rules ids sources)
    (hwritten : IsSubtree (postOrderAll sources) first id written)
    : ∃ rule, arena.rule? id = some rule ∧ rule.Encodes written first := by
  rcases h.encodes hwritten.getElem?_eq with ⟨first', rule, hsubtree, hrule, hencodes⟩
  have hfirst : first' = first := by
    have := hsubtree.id_eq.symm.trans hwritten.id_eq
    omega
  rw [hfirst, Nat.zero_add] at hencodes
  exact ⟨rule, hrule, hencodes⟩

theorem tree?_eq (h : IsBlock 0 arena.rules ids sources) {levels : Nat} (hlevels : id < levels)
    (hwritten : IsSubtree (postOrderAll sources) first id written)
    : arena.tree? levels id = some written.tree := by
  induction levels generalizing first id written with
  | zero => contradiction
  | succ levels ih =>
    rcases h.exists_rule hwritten with ⟨rule, hrule, hencodes⟩
    have hinside : rule.children.mapM (arena.tree? levels)
        = some ((written.patterns.getD []).map tree) := by
      rw [hencodes.children_eq]
      refine mapM_eq_some_map ((forall₂_idsFrom hwritten.inside).imp ?_)
      rintro child source ⟨start, hsubtree, -, hchild⟩
      have hlt : child < id := by
        rw [hwritten.id_eq]
        exact hchild
      exact ih (by omega) hsubtree
    rw [Arena.tree?, hrule]
    dsimp only [bind, Option.bind]
    rw [hinside, tree_eq]
    dsimp only
    rw [hencodes.treeOver_eq]

theorem readBack?_eq (h : IsBlock 0 arena.rules ids sources)
    (hwritten : IsSubtree (postOrderAll sources) first id written)
    : arena.readBack? id = some written.tree := by
  have hlt : id < arena.rules.length := by
    rw [h.length_eq]
    exact (List.getElem?_eq_some_iff.mp hwritten.getElem?_eq).1
  exact h.tree?_eq hlt hwritten

theorem forall₂_readBack? (h : IsBlock 0 arena.rules ids sources) {inner : List RuleSource}
    (hinner : postOrderAll inner <+: (postOrderAll sources).drop first)
    : List.Forall₂ (fun id source => arena.readBack? id = some source.tree) (idsFrom first inner)
        inner := by
  refine (forall₂_idsFrom hinner).imp ?_
  rintro id source ⟨start, hsubtree, -, -⟩
  exact h.readBack?_eq hsubtree

/-- The rules inside a rule, at every depth, and itself have the numbers of one block. -/
theorem reflTransGen_hasChild_iff (h : IsBlock 0 arena.rules ids sources)
    (hwritten : IsSubtree (postOrderAll sources) first id written)
    : Relation.ReflTransGen arena.HasChild id number ↔ first ≤ number ∧ number ≤ id := by
  induction id using Nat.strong_induction_on generalizing first written with
  | _ id ih =>
    rcases h.exists_rule hwritten with ⟨rule, hrule, hencodes⟩
    have hid : id = first + (postOrderAll (written.patterns.getD [])).length := hwritten.id_eq
    constructor
    . intro hpath
      rcases hpath.cases_head with rfl | ⟨child, ⟨rule', hrule', hchild⟩, hpath⟩
      . omega
      . obtain rfl := Option.some.inj (hrule.symm.trans hrule')
        rw [hencodes.children_eq] at hchild
        rcases exists_of_forall₂ (forall₂_idsFrom hwritten.inside) hchild
          with ⟨source, -, start, hsubtree, hstart, hlt⟩
        have hinside := (ih child (by omega) hsubtree).mp hpath
        omega
    . rintro ⟨hfirst, hlast⟩
      rcases Nat.eq_or_lt_of_le hlast with rfl | hlt
      . exact .refl
      . rcases exists_mem_idsFrom hwritten.inside hfirst (by omega)
          with ⟨child, hchild, source, start, hsubtree, hstart, hend, hchildlt⟩
        rw [← hencodes.children_eq] at hchild
        have hpath := (ih child (by omega) hsubtree).mpr ⟨hstart, hend⟩
        exact .head ⟨rule, hrule, hchild⟩ hpath

end IsBlock

namespace GrammarSource

/-- The written rules that are inside no other rule: the entries, then the root patterns. -/
def outermost (source : GrammarSource) : List RuleSource :=
  source.repository.entries.map (·.2) ++ source.patterns

def postOrder (source : GrammarSource) : List RuleSource := postOrderAll source.outermost

def ruleCount (source : GrammarSource) : Nat := source.postOrder.length

theorem isBlock_of_addEntries {entries : List (String × RuleSource)} {rules rules' : List Rule}
    {ids ids' : SortedMap String RuleId} (hentries : entries.Pairwise fun a b => a.1 < b.1)
    (hids : ∀ entry ∈ ids.entries, ∀ entry' ∈ entries, entry.1 < entry'.1)
    (h : addEntries rules ids entries = .ok (rules', ids'))
    : ∃ block added, rules' = rules ++ block
      ∧ IsBlock rules.length block added (entries.map (·.2))
      ∧ ids'.entries = ids.entries ++ (entries.map (·.1)).zip added := by
  induction entries generalizing rules ids with
  | nil =>
    cases h
    exact ⟨[], [], (List.append_nil _).symm, .nil, (List.append_nil _).symm⟩
  | cons entry rest ih =>
    rcases entry with ⟨name, source⟩
    rcases bind_eq_ok_iff.mp h with ⟨⟨inner, id⟩, hinner, h⟩
    rw [List.pairwise_cons] at hentries
    rcases isBlock_of_addTo source hinner with ⟨block, rfl, hblock⟩
    -- the entries are added in the order of their names, so that each comes to stand last
    have hinsert : (ids.insert name id).entries = ids.entries ++ [(name, id)] := by
      apply SortedMap.insertEntry_eq_append
      intro entry hentry
      have hlt := hids entry hentry _ List.mem_cons_self
      exact ⟨lt_asymm hlt, ne_of_gt hlt⟩
    have hlast : ∀ entry ∈ (ids.insert name id).entries, ∀ entry' ∈ rest, entry.1 < entry'.1 := by
      intro entry hentry entry' hentry'
      rw [hinsert, List.mem_append, List.mem_singleton] at hentry
      rcases hentry with hentry | rfl
      . exact hids entry hentry entry' (List.mem_cons_of_mem _ hentry')
      . exact hentries.1 entry' hentry'
    rcases ih hentries.2 hlast h with ⟨others, added, rfl, hothers, hadded⟩
    rw [List.length_append] at hothers
    refine ⟨block ++ others, id :: added, List.append_assoc _ _ _, hblock.append hothers, ?_⟩
    rw [hadded, hinsert, List.append_assoc]
    rfl

/-- Whether an arena is an encoding of a written grammar. -/
structure IsEncoding (source : GrammarSource) (arena : Arena) : Prop where
  ruleCount_eq : arena.rules.length = source.ruleCount
  /-- The entries are numbered first, in the order of their names. -/
  repository_eq : arena.repository.entries
    = source.repository.keys.zip (idsFrom 0 (source.repository.entries.map (·.2)))
  patterns_eq : arena.patterns
    = idsFrom (postOrderAll (source.repository.entries.map (·.2))).length source.patterns
  /-- A rule and the rules inside it are numbered from `first` on, without a gap. -/
  block {id : Nat} {written : RuleSource} (h : source.postOrder[id]? = some written)
    : ∃ first rule, IsSubtree source.postOrder first id written
      ∧ (∀ number, Relation.ReflTransGen arena.HasChild id number ↔ first ≤ number ∧ number ≤ id)
      ∧ arena.rule? id = some rule ∧ rule.Encodes written first
      ∧ arena.readBack? id = some written.tree
  /-- Every number is given once: to a rule inside one other rule, to an entry or to a root
  pattern. -/
  perm : (arena.rules.flatMap Rule.children
    ++ (arena.repository.entries.map (·.2) ++ arena.patterns)).Perm (List.range source.ruleCount)
  readBack_patterns : arena.patterns.mapM arena.readBack? = some (source.patterns.map tree)
  readBack_entry (name : String) : (arena.repository.get? name).bind arena.readBack?
    = (source.repository.get? name).map tree

variable {source : GrammarSource} {arena : Arena}

theorem isBlock_of_arena (h : source.arena = .ok arena)
    : arena.repository.entries
        = source.repository.keys.zip (idsFrom 0 (source.repository.entries.map (·.2)))
      ∧ arena.patterns
        = idsFrom (postOrderAll (source.repository.entries.map (·.2))).length source.patterns
      ∧ IsBlock 0 arena.rules (arena.repository.entries.map (·.2) ++ arena.patterns)
        source.outermost := by
  rcases bind_eq_ok_iff.mp h with ⟨⟨rules, repository⟩, hrules, h⟩
  rcases bind_eq_ok_iff.mp h with ⟨⟨all, patterns⟩, hall, heq⟩
  cases heq
  have hempty : ∀ entry ∈ (∅ : SortedMap String RuleId).entries,
      ∀ entry' ∈ source.repository.entries, entry.1 < entry'.1 := nofun
  rcases isBlock_of_addEntries source.repository.ascending hempty hrules
    with ⟨block, added, rfl, hblock, hadded⟩
  rcases isBlock_of_addAllTo source.patterns hall with ⟨others, rfl, hothers⟩
  have hentries : repository.entries = source.repository.keys.zip added := hadded
  have hlength : added.length ≤ source.repository.keys.length := by
    rw [hblock.ids_eq, length_idsFrom, List.length_map, SortedMap.keys, List.length_map]
  refine ⟨?_, ?_, ?_⟩
  . rw [hentries, hblock.ids_eq, List.length_nil]
  . rw [hothers.ids_eq, hblock.length_eq]
  . rw [hentries, List.map_snd_zip hlength]
    rw [← Nat.zero_add rules.length] at hothers
    exact hblock.append hothers

theorem bind_lookup_zip {arena : Arena} {entries : List (String × RuleSource)} {ids : List RuleId}
    (h : List.Forall₂ (fun id source => arena.readBack? id = some source.tree) ids
      (entries.map (·.2)))
    (name : String)
    : (((entries.map (·.1)).zip ids).lookup name).bind arena.readBack?
      = (entries.lookup name).map tree := by
  induction entries generalizing ids with
  | nil => rfl
  | cons entry rest ih =>
    rcases entry with ⟨key, source⟩
    cases h with
    | cons hhead hrest =>
      rw [List.map_cons, List.zip_cons_cons, SortedMap.lookup_cons, SortedMap.lookup_cons]
      split
      . exact hhead
      . exact ih hrest

/-- The rules of a grammar that builds are an encoding of the written ones. The numbers of fewer
than `2 ^ 32` rules fit into words of 32 bits. -/
theorem arena_isEncoding {grammar : Grammar} (h : source.build = .ok grammar)
    (hcount : source.ruleCount < 2 ^ 32)
    : source.IsEncoding grammar.arena
      ∧ ∀ id < grammar.ruleCount, (UInt32.ofNat id).toNat = id := by
  rcases exists_of_build_eq_ok h with ⟨harena, -⟩
  rcases isBlock_of_arena harena with ⟨hentries, hpatterns, hblock⟩
  have hall : source.postOrder = postOrderAll (source.repository.entries.map (·.2))
      ++ postOrderAll source.patterns := postOrderAll_append
  refine ⟨?_, ?_⟩
  . constructor
    . exact hblock.length_eq
    . exact hentries
    . exact hpatterns
    . intro id written hwritten
      rcases hblock.encodes hwritten with ⟨first, rule, hsubtree, hrule, hencodes⟩
      rw [Nat.zero_add] at hencodes
      exact ⟨first, rule, hsubtree, fun number => hblock.reflTransGen_hasChild_iff hsubtree, hrule,
        hencodes, hblock.readBack?_eq hsubtree⟩
    . rw [ruleCount, postOrder, ← hblock.length_eq, List.range_eq_range']
      exact hblock.perm
    . rw [hpatterns]
      refine mapM_eq_some_map (hblock.forall₂_readBack? ?_)
      rw [← postOrder, hall, List.drop_left]
    . intro name
      unfold SortedMap.get?
      rw [hentries]
      refine bind_lookup_zip (hblock.forall₂_readBack? ?_) name
      rw [← postOrder, hall, List.drop_zero]
      exact List.prefix_append _ _
  . intro id hid
    have hruleCount : grammar.ruleCount = source.ruleCount := hblock.length_eq
    rw [UInt32.toNat_ofNat']
    exact Nat.mod_eq_of_lt (by omega)

theorem arena_isEncoding_json
    : Builtin.json.build = .ok Builtin.jsonGrammar ∧ Builtin.json.ruleCount < 2 ^ 32
      ∧ Builtin.json.IsEncoding Builtin.jsonGrammar.arena
      ∧ ∀ id < Builtin.jsonGrammar.ruleCount, (UInt32.ofNat id).toNat = id := by
  have hcount : Builtin.json.ruleCount < 2 ^ 32 := by decide
  exact ⟨Builtin.build_json, hcount, arena_isEncoding Builtin.build_json hcount⟩

end GrammarSource

end TextScopes
