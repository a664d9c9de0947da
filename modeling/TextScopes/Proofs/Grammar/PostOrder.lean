import Mathlib.Data.List.Perm.Basic
import TextScopes.Proofs.Grammar.Encode
import TextScopes.Proofs.Grammar.RuleTree

/-!
This module contains the numbering of the rules of a grammar. A rule is numbered behind the rules
inside it, so that a rule and all rules inside it have the numbers of one block, which its own
number ends. Compiling written rules into a list of rules numbers them in this way.
-/

namespace TextScopes

namespace RuleSource

mutual

/-- A rule behind the rules inside it, which stand in order and each behind those inside it. -/
def postOrder : RuleSource → List RuleSource
  | ⟨name, matchPattern, beginPattern, endPattern, contentName, captures, beginCaptures,
      endCaptures, includeTarget, patterns⟩ =>
    let inside :=
      match patterns with
      | some children => postOrderAll children
      | none => []
    inside ++ [⟨name, matchPattern, beginPattern, endPattern, contentName, captures, beginCaptures,
      endCaptures, includeTarget, patterns⟩]
termination_by structural rule => rule

def postOrderAll : List RuleSource → List RuleSource
  | [] => []
  | rule :: rest => postOrder rule ++ postOrderAll rest
termination_by structural rules => rules

end

/-- The number of rules inside a rule, at every depth. -/
def innerCount (rule : RuleSource) : Nat := (postOrderAll (rule.patterns.getD [])).length

/-- The numbers of the given rules, if the first rule inside them has the number `first`. -/
def idsFrom (first : Nat) : List RuleSource → List RuleId
  | [] => []
  | rule :: rest => (first + rule.innerCount) :: idsFrom (first + rule.innerCount + 1) rest

variable {rule source : RuleSource} {sources sources' : List RuleSource} {first id : Nat}
  {ids ids' : List RuleId}

theorem postOrder_eq (rule : RuleSource)
    : rule.postOrder = postOrderAll (rule.patterns.getD []) ++ [rule] := by
  rcases rule with ⟨_, _, _, _, _, _, _, _, _, patterns⟩
  unfold postOrder
  cases patterns with
  | none => rfl
  | some children => rfl

theorem length_postOrder (rule : RuleSource) : rule.postOrder.length = rule.innerCount + 1 := by
  rw [postOrder_eq, List.length_append, List.length_singleton, innerCount]

theorem postOrderAll_singleton (rule : RuleSource) : postOrderAll [rule] = rule.postOrder := by
  rw [postOrderAll, postOrderAll, List.append_nil]

theorem postOrderAll_append
    : postOrderAll (sources ++ sources') = postOrderAll sources ++ postOrderAll sources' := by
  induction sources with
  | nil => rw [postOrderAll, List.nil_append, List.nil_append]
  | cons source rest ih => rw [List.cons_append, postOrderAll, postOrderAll, ih, List.append_assoc]

theorem length_idsFrom : (idsFrom first sources).length = sources.length := by
  induction sources generalizing first with
  | nil => rfl
  | cons source rest ih => rw [idsFrom, List.length_cons, List.length_cons, ih]

theorem idsFrom_append
    : idsFrom first (sources ++ sources')
      = idsFrom first sources ++ idsFrom (first + (postOrderAll sources).length) sources' := by
  induction sources generalizing first with
  | nil => rfl
  | cons source rest ih =>
    rw [List.cons_append, idsFrom, idsFrom, ih, postOrderAll, List.length_append, length_postOrder,
      List.cons_append, ← Nat.add_assoc, ← Nat.add_assoc]

end RuleSource

open RuleSource

/-- Whether a written rule has a number in a list of rules, and the rules inside it have the numbers
before it from `first` on. -/
structure IsSubtree (all : List RuleSource) (first id : Nat) (written : RuleSource)
    : Prop where
  id_eq : id = first + written.innerCount
  block : written.postOrder <+: all.drop first

namespace IsSubtree

variable {all : List RuleSource} {first id : Nat} {written : RuleSource}

theorem append_right (h : IsSubtree all first id written) (more : List RuleSource)
    : IsSubtree (all ++ more) first id written := by
  refine ⟨h.id_eq, ?_⟩
  rw [List.drop_append]
  exact h.block.trans (List.prefix_append _ _)

theorem append_left (h : IsSubtree all first id written) (before : List RuleSource)
    : IsSubtree (before ++ all) (before.length + first) (before.length + id) written := by
  refine ⟨by rw [h.id_eq, Nat.add_assoc], ?_⟩
  rw [List.drop_append, List.drop_eq_nil_of_le (Nat.le_add_right _ _), List.nil_append,
    Nat.add_sub_cancel_left]
  exact h.block

theorem getElem?_eq (h : IsSubtree all first id written) : all[id]? = some written := by
  rcases h.block with ⟨more, hmore⟩
  have hself : written.postOrder[written.innerCount]? = some written := by
    rw [postOrder_eq, innerCount, List.getElem?_concat_length]
  rw [h.id_eq, ← List.getElem?_drop, ← hmore, List.getElem?_append_left, hself]
  rw [length_postOrder]
  exact Nat.lt_succ_self _

end IsSubtree

/-- Whether a rule says what a written rule says, and the rules inside it are numbered from `first`
on. -/
structure Rule.Encodes (rule : Rule) (written : RuleSource) (first : Nat) : Prop where
  children_eq : rule.children = idsFrom first (written.patterns.getD [])
  treeOver_eq (inside : List RuleTree) : rule.treeOver inside = written.treeOver inside

/-- How rules are listed that are compiled from written rules behind `start` other rules. -/
structure IsBlock (start : Nat) (rules : List Rule) (ids : List RuleId)
    (sources : List RuleSource) : Prop where
  length_eq : rules.length = (postOrderAll sources).length
  ids_eq : ids = idsFrom start sources
  encodes {k : Nat} {written : RuleSource} (h : (postOrderAll sources)[k]? = some written)
    : ∃ first rule, IsSubtree (postOrderAll sources) first k written ∧ rules[k]? = some rule
      ∧ rule.Encodes written (start + first)
  /-- Each number is given once: to a rule inside one other rule, or to one of the given rules. -/
  perm : (rules.flatMap Rule.children ++ ids).Perm (List.range' start rules.length)

namespace IsBlock

variable {start : Nat} {rules rules' : List Rule} {ids ids' : List RuleId}
  {sources sources' : List RuleSource}

theorem nil : IsBlock start [] [] [] := by
  refine ⟨rfl, rfl, ?_, ?_⟩
  . intro k written h
    contradiction
  . exact List.Perm.nil

theorem append (h : IsBlock start rules ids sources)
    (h' : IsBlock (start + rules.length) rules' ids' sources')
    : IsBlock start (rules ++ rules') (ids ++ ids') (sources ++ sources') := by
  constructor
  . rw [List.length_append, postOrderAll_append, List.length_append, h.length_eq, h'.length_eq]
  . rw [idsFrom_append, h.ids_eq, h'.ids_eq, h.length_eq]
  . intro k written hk
    rw [postOrderAll_append] at hk ⊢
    by_cases hlt : k < rules.length
    . rw [List.getElem?_append_left (h.length_eq ▸ hlt)] at hk
      rcases h.encodes hk with ⟨first, rule, hsubtree, hrule, hencodes⟩
      refine ⟨first, rule, hsubtree.append_right _, ?_, hencodes⟩
      rw [List.getElem?_append_left hlt]
      exact hrule
    . rcases Nat.exists_eq_add_of_le (Nat.le_of_not_lt hlt) with ⟨k, rfl⟩
      rw [h.length_eq, List.getElem?_append_right (Nat.le_add_right _ _),
        Nat.add_sub_cancel_left] at hk
      rcases h'.encodes hk with ⟨first, rule, hsubtree, hrule, hencodes⟩
      have hsubtree := hsubtree.append_left (postOrderAll sources)
      rw [← h.length_eq] at hsubtree
      refine ⟨rules.length + first, rule, hsubtree, ?_, ?_⟩
      . rw [List.getElem?_append_right (Nat.le_add_right _ _), Nat.add_sub_cancel_left]
        exact hrule
      . rw [← Nat.add_assoc]
        exact hencodes
  . rw [List.flatMap_append, List.length_append, ← List.range'_append_1, List.append_assoc]
    refine List.Perm.trans ?_ (h.perm.append h'.perm)
    rw [List.append_assoc]
    exact List.perm_append_comm_assoc _ _ _ |>.append_left _

theorem wrap {rule : Rule} {source : RuleSource}
    (h : IsBlock start rules ids (source.patterns.getD [])) (hchildren : rule.children = ids)
    (htree : ∀ inside, rule.treeOver inside = source.treeOver inside)
    : IsBlock start (rules ++ [rule]) [start + rules.length] [source] := by
  have hlength : rules.length = source.innerCount := h.length_eq
  constructor
  . rw [postOrderAll_singleton, length_postOrder, List.length_append, List.length_singleton,
      hlength]
  . rw [idsFrom, idsFrom, hlength]
  . intro k written hk
    rw [postOrderAll_singleton, postOrder_eq] at hk ⊢
    -- a rule inside keeps its place in the block, and the rule itself ends it
    by_cases hlt : k < rules.length
    . rw [List.getElem?_append_left (h.length_eq ▸ hlt)] at hk
      rcases h.encodes hk with ⟨first, inner, hsubtree, hinner, hencodes⟩
      refine ⟨first, inner, hsubtree.append_right _, ?_, hencodes⟩
      rw [List.getElem?_append_left hlt]
      exact hinner
    . have hk' : k = rules.length := by
        have := (List.getElem?_eq_some_iff.mp hk).1
        rw [List.length_append, List.length_singleton, ← h.length_eq] at this
        omega
      subst hk'
      rw [h.length_eq, List.getElem?_concat_length] at hk
      cases hk
      refine ⟨0, rule, ⟨?_, ?_⟩, List.getElem?_concat_length, ?_, htree⟩
      . rw [hlength, Nat.zero_add]
      . have hself : source.postOrder
            = (postOrderAll (source.patterns.getD []) ++ [source]).drop 0 := postOrder_eq source
        exact hself ▸ List.prefix_rfl
      . rw [hchildren, h.ids_eq, Nat.add_zero]
  . rw [List.flatMap_append, List.length_append, List.length_singleton, List.range'_concat,
      List.flatMap_singleton, hchildren, Nat.one_mul]
    exact h.perm.append_right _

end IsBlock

namespace RuleSource

mutual

theorem isBlock_of_addTo (source : RuleSource) {rules rules' : List Rule} {path : RulePath}
    {id : RuleId} (h : addTo rules path source = .ok (rules', id))
    : ∃ block, rules' = rules ++ block ∧ IsBlock rules.length block [id] [source] := by
  rcases exists_of_addTo_eq_ok h with ⟨mode, inner, ids, kind, hmode, hinner, hkind, rfl, rfl⟩
  rcases isBlock_of_addAllTo _ hinner with ⟨block, rfl, hblock⟩
  have hlength : ids.length = (source.patterns.getD []).length := by
    rw [hblock.ids_eq, length_idsFrom]
  refine ⟨block ++ [⟨source.name, kind⟩], List.append_assoc _ _ _, ?_⟩
  rw [List.length_append]
  exact hblock.wrap (children_of_toKind hmode hkind hlength) (treeOver_of_toKind hmode hkind)
termination_by sizeOf source
decreasing_by exact sizeOf_patterns_lt source

theorem isBlock_of_addAllTo (sources : List RuleSource) {rules rules' : List Rule}
    {path : Nat → RulePath} {index : Nat} {ids : List RuleId}
    (h : addAllTo rules path index sources = .ok (rules', ids))
    : ∃ block, rules' = rules ++ block ∧ IsBlock rules.length block ids sources := by
  match sources with
  | [] =>
    cases h
    exact ⟨[], (List.append_nil _).symm, .nil⟩
  | source :: rest =>
    rcases exists_of_addAllTo_cons_eq_ok h with ⟨inner, id, ids, hinner, houter, rfl⟩
    rcases isBlock_of_addTo source hinner with ⟨block, rfl, hblock⟩
    rcases isBlock_of_addAllTo rest houter with ⟨others, rfl, hothers⟩
    rw [List.length_append] at hothers
    exact ⟨block ++ others, List.append_assoc _ _ _, hblock.append hothers⟩
termination_by sizeOf sources

end

theorem length_of_addTo {source : RuleSource} {rules rules' : List Rule} {path : RulePath}
    {id : RuleId} (h : addTo rules path source = .ok (rules', id))
    : rules'.length = rules.length + source.postOrder.length := by
  rcases isBlock_of_addTo source h with ⟨block, rfl, hblock⟩
  rw [List.length_append, hblock.length_eq, postOrderAll_singleton]

theorem length_of_addAllTo {sources : List RuleSource} {rules rules' : List Rule}
    {path : Nat → RulePath} {index : Nat} {ids : List RuleId}
    (h : addAllTo rules path index sources = .ok (rules', ids))
    : rules'.length = rules.length + (postOrderAll sources).length := by
  rcases isBlock_of_addAllTo sources h with ⟨block, rfl, hblock⟩
  rw [List.length_append, hblock.length_eq]

end RuleSource

end TextScopes
