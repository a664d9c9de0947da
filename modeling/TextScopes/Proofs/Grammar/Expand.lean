import Mathlib.Data.Finset.Card
import Mathlib.Data.Finset.Range
import Mathlib.Logic.Relation
import TextScopes.Grammar.Resolve
import TextScopes.Proofs.Result

/-!
This module contains what following includes finds. An expansion enters exactly the rules to which
includes and containers lead from the rules it starts at, however they go in circles, and none of
them includes an entry that does not exist.
-/

namespace TextScopes.Arena

/-- Whether an include or a container has another rule stand in for it. -/
def Follows (arena : Arena) (id next : RuleId) : Prop :=
  ∃ rule ids, arena.rule? id = some rule ∧ arena.standIns rule = .ok (some ids) ∧ next ∈ ids

/-- Whether one rule leads to another one at the same level of nesting. -/
def Leads (arena : Arena) : RuleId → RuleId → Prop := Relation.ReflTransGen arena.Follows

/-- Whether a rule can be followed: it includes no entry that does not exist. -/
def IsSettled (arena : Arena) (id : RuleId) : Prop :=
  ∀ rule, arena.rule? id = some rule → ∃ ids, arena.standIns rule = .ok ids

def IsMatcher (arena : Arena) (id : RuleId) : Prop :=
  ∃ rule, arena.rule? id = some rule ∧ arena.standIns rule = .ok none

/-- What an expansion does from given rules on: it enters them and all that they lead to, and finds
those of the rules entered that match something themselves. -/
structure Expands (arena : Arena) (roots : List RuleId) (e e' : Expansion) : Prop where
  subset : ∀ id ∈ e.visited, id ∈ e'.visited
  entered : ∀ id ∈ roots, id ∈ e'.visited
  settled : ∀ id ∈ e'.visited, id ∉ e.visited → arena.IsSettled id
  closed : ∀ id ∈ e'.visited, id ∉ e.visited → ∀ next, arena.Follows id next → next ∈ e'.visited
  reached : ∀ id ∈ e'.visited, id ∉ e.visited → ∃ root ∈ roots, arena.Leads root id
  found : ∃ added, e'.found = e.found ++ added ∧ added.Nodup
    ∧ ∀ id, id ∈ added ↔ id ∈ e'.visited ∧ id ∉ e.visited ∧ arena.IsMatcher id

/-- The number of rules that have not been entered. -/
def unvisited (arena : Arena) (visited : List RuleId) : Nat :=
  (Finset.range arena.rules.length \ visited.toFinset).card

variable {arena : Arena} {id : RuleId} {ids roots others : List RuleId} {e e' e'' : Expansion}
  {rule : Rule} {depth : Nat}

theorem unvisited_le {visited visited' : List RuleId} (h : ∀ id ∈ visited, id ∈ visited')
    : arena.unvisited visited' ≤ arena.unvisited visited := by
  unfold unvisited
  apply Finset.card_le_card
  apply Finset.sdiff_subset_sdiff (Finset.Subset.refl _)
  intro id hid
  rw [List.mem_toFinset] at *
  exact h id hid

theorem unvisited_cons_lt {visited : List RuleId} (hrule : arena.rule? id = some rule)
    (hid : id ∉ visited) : arena.unvisited (id :: visited) < arena.unvisited visited := by
  have hlt : id < arena.rules.length := (List.getElem?_eq_some_iff.mp hrule).1
  unfold unvisited
  apply Finset.card_lt_card
  rw [Finset.ssubset_iff_of_subset]
  . exact ⟨id, by simp [hlt, hid], by simp⟩
  . intro i hi
    simp at *
    exact ⟨hi.1, hi.2.2⟩

namespace Expands

theorem refl (h : ∀ id ∈ roots, id ∈ e.visited) : arena.Expands roots e e where
  subset _ hid := hid
  entered := h
  settled _ hid hnew := absurd hid hnew
  closed _ hid hnew := absurd hid hnew
  reached _ hid hnew := absurd hid hnew
  found := ⟨[], by simp, List.nodup_nil, fun id => by
    constructor
    . intro hid
      contradiction
    . intro hid
      exact absurd hid.1 hid.2.1⟩

theorem append (h : arena.Expands roots e e') (h' : arena.Expands others e' e'')
    : arena.Expands (roots ++ others) e e'' where
  subset id hid := h'.subset id (h.subset id hid)
  entered id hid := by
    rcases List.mem_append.mp hid with hid | hid
    . exact h'.subset id (h.entered id hid)
    . exact h'.entered id hid
  settled id hid hnew := by
    by_cases hmid : id ∈ e'.visited
    . exact h.settled id hmid hnew
    . exact h'.settled id hid hmid
  closed id hid hnew next hnext := by
    by_cases hmid : id ∈ e'.visited
    . exact h'.subset next (h.closed id hmid hnew next hnext)
    . exact h'.closed id hid hmid next hnext
  reached id hid hnew := by
    by_cases hmid : id ∈ e'.visited
    . rcases h.reached id hmid hnew with ⟨root, hroot, hleads⟩
      exact ⟨root, List.mem_append_left _ hroot, hleads⟩
    . rcases h'.reached id hid hmid with ⟨root, hroot, hleads⟩
      exact ⟨root, List.mem_append_right _ hroot, hleads⟩
  found := by
    rcases h.found with ⟨added, hfound, hnodup, hadded⟩
    rcases h'.found with ⟨added', hfound', hnodup', hadded'⟩
    refine ⟨added ++ added', by simp [hfound, hfound'], ?_, ?_⟩
    . rw [List.nodup_append]
      refine ⟨hnodup, hnodup', ?_⟩
      intro a ha b hb heq
      subst heq
      exact ((hadded' a).mp hb).2.1 ((hadded a).mp ha).1
    . intro id
      rw [List.mem_append, hadded, hadded']
      constructor
      . rintro (⟨hmid, hnew, hmatcher⟩ | ⟨hid, hmid, hmatcher⟩)
        . exact ⟨h'.subset id hmid, hnew, hmatcher⟩
        . exact ⟨hid, fun hold => hmid (h.subset id hold), hmatcher⟩
      . rintro ⟨hid, hnew, hmatcher⟩
        by_cases hmid : id ∈ e'.visited
        . exact Or.inl ⟨hmid, hnew, hmatcher⟩
        . exact Or.inr ⟨hid, hmid, hmatcher⟩

theorem enter (hrule : arena.rule? id = some rule)
    (hstand : arena.standIns rule = .ok (some ids))
    (h : arena.Expands ids { e with visited := id :: e.visited } e')
    : arena.Expands [id] e e' := by
  have hfollows (next : RuleId) : arena.Follows id next ↔ next ∈ ids := by
    simp [Follows, hrule, hstand]
  have hnotMatcher : ¬ arena.IsMatcher id := by
    simp [IsMatcher, hrule, hstand]
  have hnew {i : RuleId} (hi : i ∉ e.visited) (hne : i ≠ id) : i ∉ id :: e.visited := by
    simp [hi, hne]
  refine ⟨fun i hi => h.subset i (List.mem_cons_of_mem id hi), ?_, ?_, ?_, ?_, ?_⟩
  . intro i hi
    rw [List.mem_singleton.mp hi]
    exact h.subset id List.mem_cons_self
  . intro i hi hold
    by_cases heq : i = id
    . intro rule' hrule'
      rw [heq, hrule] at hrule'
      cases hrule'
      exact ⟨_, hstand⟩
    . exact h.settled i hi (hnew hold heq)
  . intro i hi hold next hnext
    by_cases heq : i = id
    . rw [heq, hfollows] at hnext
      exact h.entered next hnext
    . exact h.closed i hi (hnew hold heq) next hnext
  . intro i hi hold
    refine ⟨id, List.mem_singleton_self id, ?_⟩
    by_cases heq : i = id
    . rw [heq]
      exact Relation.ReflTransGen.refl
    . rcases h.reached i hi (hnew hold heq) with ⟨root, hroot, hleads⟩
      exact Relation.ReflTransGen.head ((hfollows root).mpr hroot) hleads
  . rcases h.found with ⟨added, hfound, hnodup, hadded⟩
    refine ⟨added, hfound, hnodup, ?_⟩
    intro i
    rw [hadded i]
    by_cases heq : i = id
    . simp [heq, hnotMatcher]
    . simp [heq]

theorem single (hid : id ∉ e.visited) (hsettled : arena.IsSettled id)
    (hfollows : ∀ next, ¬ arena.Follows id next) {added : List RuleId} (hnodup : added.Nodup)
    (hadded : ∀ i, i ∈ added ↔ i = id ∧ arena.IsMatcher id)
    : arena.Expands [id] e ⟨id :: e.visited, e.found ++ added⟩ where
  subset i hi := List.mem_cons_of_mem id hi
  entered i hi := by simp [List.mem_singleton.mp hi]
  settled i hi hold := by
    cases hi with
    | head => exact hsettled
    | tail _ hi => contradiction
  closed i hi hold next hnext := by
    cases hi with
    | head => exact absurd hnext (hfollows next)
    | tail _ hi => contradiction
  reached i hi hold := by
    cases hi with
    | head => exact ⟨id, List.mem_singleton_self id, Relation.ReflTransGen.refl⟩
    | tail _ hi => contradiction
  found := by
    refine ⟨added, rfl, hnodup, ?_⟩
    intro i
    rw [hadded]
    constructor
    . rintro ⟨rfl, hmatcher⟩
      exact ⟨List.mem_cons_self, hid, hmatcher⟩
    . rintro ⟨hi, hold, hmatcher⟩
      cases hi with
      | head => exact ⟨rfl, hmatcher⟩
      | tail _ hi => contradiction

theorem foldlM {f : Expansion → RuleId → Except Error Expansion} (bound : Nat)
    (hf : ∀ {e e' id}, arena.unvisited e.visited < bound → f e id = .ok e' →
      arena.Expands [id] e e')
    (hbound : arena.unvisited e.visited < bound) (h : ids.foldlM f e = .ok e')
    : arena.Expands ids e e' := by
  induction ids generalizing e with
  | nil =>
    cases h
    exact refl (by simp)
  | cons id ids ih =>
    rw [List.foldlM_cons] at h
    rcases bind_eq_ok_iff.mp h with ⟨mid, hmid, hrest⟩
    have hfirst := hf hbound hmid
    exact hfirst.append (ih (Nat.lt_of_le_of_lt (unvisited_le hfirst.subset) hbound) hrest)

end Expands

theorem expands_expand (hdepth : arena.unvisited e.visited < depth)
    (h : arena.expand depth id e = .ok e') : arena.Expands [id] e e' := by
  induction depth generalizing id e e' with
  | zero => omega
  | succ depth ih =>
    unfold expand at h
    split at h
    . next hid =>
      cases h
      exact Expands.refl (by simpa using hid)
    . next hid =>
      have hid : id ∉ e.visited := by simpa using hid
      dsimp only at h
      split at h
      . next hrule =>
        cases h
        have hmatcher : ¬ arena.IsMatcher id := by simp [IsMatcher, hrule]
        have hsettled : arena.IsSettled id := by simp [IsSettled, hrule]
        have hfollows (next : RuleId) : ¬ arena.Follows id next := by simp [Follows, hrule]
        have hadded (i : RuleId) : i ∈ [] ↔ i = id ∧ arena.IsMatcher id := by simp [hmatcher]
        simpa using Expands.single hid hsettled hfollows List.nodup_nil hadded
      . next rule hrule =>
        rcases bind_eq_ok_iff.mp h with ⟨stand, hstand, h⟩
        cases stand with
        | none =>
          cases h
          have hmatcher : arena.IsMatcher id := ⟨rule, hrule, hstand⟩
          apply Expands.single hid _ _ (List.nodup_singleton id) (by simp [hmatcher])
          . intro rule' hrule'
            rw [hrule] at hrule'
            cases hrule'
            exact ⟨none, hstand⟩
          . simp [Follows, hrule, hstand]
        | some ids =>
          apply Expands.enter hrule hstand
          -- entering the rule takes one level and leaves one rule less
          have hlt := unvisited_cons_lt hrule hid
          exact Expands.foldlM depth ih (by dsimp only; omega) h

/-- What is active where given rules are: each rule that matches something and to which one of the
given rules leads, once. No rule to which they lead includes an entry that does not exist. -/
structure Resolves (arena : Arena) (patterns : List RuleId) (set : ActiveSet) : Prop where
  nodup : set.rules.Nodup
  mem_iff : ∀ id, id ∈ set.rules ↔ (∃ root ∈ patterns, arena.Leads root id) ∧ arena.IsMatcher id
  settled : ∀ root ∈ patterns, ∀ id, arena.Leads root id → arena.IsSettled id

theorem resolves_resolveSet {patterns : List RuleId} {set : ActiveSet}
    (h : arena.resolveSet patterns = .ok set) : arena.Resolves patterns set := by
  rcases bind_eq_ok_iff.mp h with ⟨e, he, heq⟩
  cases heq
  have hexpands : arena.Expands patterns ⟨[], []⟩ e := by
    apply Expands.foldlM (arena.rules.length + 1) expands_expand _ he
    simp [unvisited]
  have hvisited {root id : RuleId} (hroot : root ∈ patterns) (hleads : arena.Leads root id)
      : id ∈ e.visited := by
    induction hleads with
    | refl => exact hexpands.entered root hroot
    | tail _ hfollows ih => exact hexpands.closed _ ih (by simp) _ hfollows
  rcases hexpands.found with ⟨added, hfound, hnodup, hadded⟩
  rw [List.nil_append] at hfound
  constructor
  . rw [hfound]
    exact hnodup
  . intro id
    rw [hfound, hadded]
    constructor
    . rintro ⟨hid, hnew, hmatcher⟩
      exact ⟨hexpands.reached id hid hnew, hmatcher⟩
    . rintro ⟨⟨root, hroot, hleads⟩, hmatcher⟩
      exact ⟨hvisited hroot hleads, by simp, hmatcher⟩
  . intro root hroot id hleads
    exact hexpands.settled id (hvisited hroot hleads) (by simp)

end TextScopes.Arena
