import TextScopes.Proofs.Grammar.DepthFirst

/-!
This module contains which grammars resolve: those in which no rule that is reached from the root
patterns includes an entry that does not exist. Every rule that can match at some level waits once
for its own level, so that the rounds suffice.
-/

namespace TextScopes.Arena

/-- Whether a rule is reached from the root patterns, through includes and containers and through
the rules inside regions. -/
inductive Reaches (arena : Arena) : RuleId → Prop
  | pattern {id : RuleId} (h : id ∈ arena.patterns) : Reaches arena id
  | follow {id next : RuleId} (h : Reaches arena id) (hnext : arena.Follows id next)
    : Reaches arena next
  | inside {id child : RuleId} {region : Region} (h : Reaches arena id)
    (hregion : (arena.rule? id).bind Rule.region? = some region) (hchild : child ∈ region.patterns)
    : Reaches arena child

variable {arena : Arena} {id : RuleId} {done waiting : List RuleId} {resolution next : Resolution}
  {rounds : Nat} {error : Error}

theorem Reaches.leads {root : RuleId} (h : arena.Reaches root) (hleads : arena.Leads root id)
    : arena.Reaches id := by
  induction hleads with
  | refl => exact h
  | tail _ hfollows ih => exact ih.follow hfollows

/-- Whether all that is active where given rules are stands in a list. -/
def Covers (arena : Arena) (found patterns : List RuleId) : Prop :=
  ∀ root ∈ patterns, ∀ id, arena.Leads root id →
    arena.IsSettled id ∧ (arena.IsMatcher id → id ∈ found)

/-- The invariant of finding the levels: the rules found so far are those whose level is done and
those that wait for theirs. -/
structure Levels (arena : Arena) (done waiting : List RuleId) (resolution : Resolution)
    : Prop where
  scanOrder : resolution.scanOrder = done ++ waiting
  nodup : (done ++ waiting).Nodup
  matcher : ∀ id ∈ done ++ waiting, arena.IsMatcher id
  reached : ∀ id ∈ done ++ waiting, arena.Reaches id
  root : arena.Covers (done ++ waiting) arena.patterns
  inside : ∀ id ∈ done, ∀ region, (arena.rule? id).bind Rule.region? = some region →
    arena.Covers (done ++ waiting) region.patterns

theorem Covers.mono {found found' patterns : List RuleId} (h : arena.Covers found patterns)
    (hfound : ∀ id ∈ found, id ∈ found') : arena.Covers found' patterns := by
  intro root hroot id hleads
  rcases h root hroot id hleads with ⟨hsettled, hmatcher⟩
  exact ⟨hsettled, fun hmatches => hfound id (hmatcher hmatches)⟩

theorem Resolves.covers {patterns : List RuleId} {set : ActiveSet} (h : arena.Resolves patterns set)
    {found : List RuleId} (hfound : ∀ id ∈ set.rules, id ∈ found)
    : arena.Covers found patterns := by
  intro root hroot id hleads
  refine ⟨h.settled root hroot id hleads, fun hmatcher => hfound id ?_⟩
  exact (h.mem_iff id).mpr ⟨⟨root, hroot, hleads⟩, hmatcher⟩

namespace Levels

theorem length_le (h : arena.Levels done waiting resolution)
    : (done ++ waiting).length ≤ arena.rules.length := by
  rw [← List.toFinset_card_of_nodup h.nodup, ← Finset.card_range arena.rules.length]
  apply Finset.card_le_card
  intro id hid
  rcases h.matcher id (List.mem_toFinset.mp hid) with ⟨rule, hrule, -⟩
  simpa using (List.getElem?_eq_some_iff.mp hrule).1

theorem initial {root : ActiveSet} (h : arena.Resolves arena.patterns root)
    : arena.Levels [] root.rules ⟨root, [], root.rules⟩ where
  scanOrder := rfl
  nodup := h.nodup
  matcher id hid := ((h.mem_iff id).mp hid).2
  reached id hid := by
    rcases ((h.mem_iff id).mp hid).1 with ⟨pattern, hpattern, hleads⟩
    exact (Reaches.pattern hpattern).leads hleads
  root := h.covers fun id hid => hid
  inside id hid := by contradiction

theorem skip (h : arena.Levels done (id :: waiting) resolution)
    (hregion : (arena.rule? id).bind Rule.region? = none)
    : arena.Levels (done ++ [id]) waiting resolution := by
  have heq : done ++ [id] ++ waiting = done ++ id :: waiting := by simp
  constructor
  . rw [heq]
    exact h.scanOrder
  . rw [heq]
    exact h.nodup
  . rw [heq]
    exact h.matcher
  . rw [heq]
    exact h.reached
  . rw [heq]
    exact h.root
  . rw [heq]
    intro i hi region hi'
    rcases List.mem_append.mp hi with hi | hi
    . exact h.inside i hi region hi'
    . rw [List.mem_singleton.mp hi, hregion] at hi'
      contradiction

theorem level {region : Region} {set : ActiveSet} (h : arena.Levels done (id :: waiting) resolution)
    (hregion : (arena.rule? id).bind Rule.region? = some region)
    (hset : arena.Resolves region.patterns set)
    : let new := set.rules.filter fun id => !resolution.scanOrder.contains id
      arena.Levels (done ++ [id]) (waiting ++ new)
        { resolution with
          regions := resolution.regions ++ [(id, set)],
          scanOrder := resolution.scanOrder ++ new } := by
  intro new
  have heq : done ++ [id] ++ (waiting ++ new) = done ++ id :: waiting ++ new := by simp
  have hold {i : RuleId} (hi : i ∈ done ++ id :: waiting) : i ∈ done ++ id :: waiting ++ new :=
    List.mem_append_left _ hi
  have hnew {i : RuleId} : i ∈ new ↔ i ∈ set.rules ∧ i ∉ done ++ id :: waiting := by
    simp only [new, h.scanOrder, List.mem_filter, Bool.not_eq_true', List.contains_eq_mem,
      decide_eq_false_iff_not]
  have hid : id ∈ done ++ id :: waiting := by simp
  constructor
  . dsimp only
    rw [heq, h.scanOrder]
  . rw [heq, List.nodup_append]
    refine ⟨h.nodup, hset.nodup.filter _, ?_⟩
    intro a ha b hb hab
    subst hab
    exact (hnew.mp hb).2 ha
  . rw [heq]
    intro i hi
    rcases List.mem_append.mp hi with hi | hi
    . exact h.matcher i hi
    . exact ((hset.mem_iff i).mp (hnew.mp hi).1).2
  . rw [heq]
    intro i hi
    rcases List.mem_append.mp hi with hi | hi
    . exact h.reached i hi
    . rcases ((hset.mem_iff i).mp (hnew.mp hi).1).1 with ⟨pattern, hpattern, hleads⟩
      exact ((h.reached id hid).inside hregion hpattern).leads hleads
  . rw [heq]
    exact h.root.mono fun i hi => hold hi
  . rw [heq]
    intro i hi region' hi'
    rcases List.mem_append.mp hi with hi | hi
    . exact (h.inside i hi region' hi').mono fun i hi => hold hi
    . rw [List.mem_singleton.mp hi, hregion] at hi'
      cases hi'
      apply hset.covers
      intro i hi
      rw [List.mem_append]
      -- what is active inside the region is known already, or waits from now on
      by_cases hmem : i ∈ done ++ id :: waiting
      . exact Or.inl hmem
      . exact Or.inr (hnew.mpr ⟨hi, hmem⟩)

/-- What skipping a rule and finding the level inside a region keep, holds when no rule waits any
more. There are enough rounds, as each of them is for a rule that was found. -/
theorem exists_of_resolveRegions {holds : List RuleId → List RuleId → Resolution → Prop}
    (hlevels : ∀ {done waiting resolution}, holds done waiting resolution →
      arena.Levels done waiting resolution)
    (hskip : ∀ {done id waiting resolution}, holds done (id :: waiting) resolution →
      (arena.rule? id).bind Rule.region? = none → holds (done ++ [id]) waiting resolution)
    (hlevel : ∀ {done id waiting resolution region set}, holds done (id :: waiting) resolution →
      (arena.rule? id).bind Rule.region? = some region →
      arena.resolveSet region.patterns = .ok set →
      let new := set.rules.filter fun id => !resolution.scanOrder.contains id
      holds (done ++ [id]) (waiting ++ new)
        { resolution with
          regions := resolution.regions ++ [(id, set)],
          scanOrder := resolution.scanOrder ++ new })
    (h : holds done waiting resolution) (hrounds : arena.rules.length ≤ done.length + rounds)
    (hnext : arena.resolveRegions rounds waiting resolution = .ok next)
    : ∃ found, holds found [] next := by
  induction rounds generalizing done waiting resolution with
  | zero =>
    have hlength := (hlevels h).length_le
    rw [List.length_append] at hlength
    obtain rfl : waiting = [] := List.length_eq_zero_iff.mp (by omega)
    cases hnext
    exact ⟨done, h⟩
  | succ rounds ih =>
    cases waiting with
    | nil =>
      cases hnext
      exact ⟨done, h⟩
    | cons id waiting =>
      unfold Arena.resolveRegions at hnext
      have hlength : (done ++ [id]).length = done.length + 1 := by simp
      split at hnext
      . next hregion => exact ih (hskip h hregion) (by omega) hnext
      . next region hregion =>
        rcases bind_eq_ok_iff.mp hnext with ⟨set, hset, hnext⟩
        exact ih (hlevel h hregion hset) (by omega) hnext

theorem resolveRegions (h : arena.Levels done waiting resolution)
    (hrounds : arena.rules.length ≤ done.length + rounds)
    (hnext : arena.resolveRegions rounds waiting resolution = .ok next)
    : ∃ found, arena.Levels found [] next :=
  exists_of_resolveRegions id skip
    (fun h hregion hset => h.level hregion (resolves_resolveSet hset)) h hrounds hnext

theorem isSettled_of_reaches (h : arena.Levels done [] resolution) (hid : arena.Reaches id)
    : arena.IsSettled id := by
  have hinside : ∃ patterns, arena.Covers done patterns
      ∧ ∃ root ∈ patterns, arena.Leads root id := by
    have hroot := h.root
    rw [List.append_nil] at hroot
    induction hid with
    | pattern hid => exact ⟨arena.patterns, hroot, _, hid, Relation.ReflTransGen.refl⟩
    | follow _ hfollows ih =>
      rcases ih with ⟨patterns, hcovers, root, hroot, hleads⟩
      exact ⟨patterns, hcovers, root, hroot, hleads.tail hfollows⟩
    | @inside id child region _ hregion hchild ih =>
      rcases ih with ⟨patterns, hcovers, root, hroot, hleads⟩
      have hmatcher : arena.IsMatcher id := by
        rcases Option.bind_eq_some_iff.mp hregion with ⟨rule, hrule, hkind⟩
        refine ⟨rule, hrule, ?_⟩
        unfold Rule.region? at hkind
        unfold standIns
        split at hkind
        . next hkind' => simp only [hkind']
        . contradiction
      have hdone := (hcovers root hroot id hleads).2 hmatcher
      have hregion := h.inside id hdone region hregion
      rw [List.append_nil] at hregion
      exact ⟨region.patterns, hregion, child, hchild, Relation.ReflTransGen.refl⟩
  rcases hinside with ⟨patterns, hcovers, root, hroot, hleads⟩
  exact (hcovers root hroot id hleads).1

end Levels

theorem exists_missing_of_resolveRegions (hwaiting : ∀ id ∈ waiting, arena.Reaches id)
    (h : arena.resolveRegions rounds waiting resolution = .error error)
    : ∃ id name, arena.Reaches id ∧ arena.missing? id = some name
      ∧ error = .unresolvedInclude ("#" ++ name) := by
  induction rounds generalizing waiting resolution with
  | zero => contradiction
  | succ rounds ih =>
    cases waiting with
    | nil => contradiction
    | cons id waiting =>
      have hid := hwaiting id List.mem_cons_self
      have hrest : ∀ i ∈ waiting, arena.Reaches i :=
        fun i hi => hwaiting i (List.mem_cons_of_mem id hi)
      unfold resolveRegions at h
      split at h
      . exact ih hrest h
      . next region hregion =>
        -- what a rule inside a region leads to is reached when the region is
        have hinside {root i : RuleId} (hroot : root ∈ region.patterns)
            (hleads : arena.Leads root i) : arena.Reaches i :=
          (hid.inside hregion hroot).leads hleads
        cases hset : arena.resolveSet region.patterns with
        | error error' =>
          rw [hset] at h
          cases h
          rcases exists_missing_of_resolveSet hset
            with ⟨root, hroot, i, name, hleads, hname, herror⟩
          exact ⟨i, name, hinside hroot hleads.leads, hname, herror⟩
        | ok set =>
          rw [hset] at h
          apply ih _ h
          intro i hi
          rcases List.mem_append.mp hi with hi | hi
          . exact hrest i hi
          . rcases (((resolves_resolveSet hset).mem_iff i).mp (List.mem_filter.mp hi).1).1
              with ⟨root, hroot, hleads⟩
            exact hinside hroot hleads

/-- A grammar that does not resolve has a rule that is reached and includes an entry that does not
exist. The error names the entry. -/
theorem exists_missing_of_resolve (h : arena.resolve = .error error)
    : ∃ id name, arena.Reaches id ∧ arena.missing? id = some name
      ∧ error = .unresolvedInclude ("#" ++ name) := by
  unfold resolve at h
  cases hroot : arena.resolveSet arena.patterns with
  | error error' =>
    rw [hroot] at h
    cases h
    rcases exists_missing_of_resolveSet hroot with ⟨root, hroot, id, name, hleads, hname, herror⟩
    exact ⟨id, name, (Reaches.pattern hroot).leads hleads.leads, hname, herror⟩
  | ok root =>
    rw [hroot] at h
    dsimp only [bind, Except.bind] at h
    exact exists_missing_of_resolveRegions (Levels.initial (resolves_resolveSet hroot)).reached h

/-- A grammar resolves exactly if no rule that is reached includes an entry that does not exist. -/
theorem exists_resolve_iff
    : (∃ resolution, arena.resolve = .ok resolution) ↔ ∀ id, arena.Reaches id → arena.IsSettled id
    := by
  constructor
  . rintro ⟨resolution, h⟩ id hid
    rcases bind_eq_ok_iff.mp h with ⟨root, hroot, hregions⟩
    have hlevels := Levels.initial (resolves_resolveSet hroot)
    rcases hlevels.resolveRegions (by simp) hregions with ⟨found, hfound⟩
    exact hfound.isSettled_of_reaches hid
  . intro hsettled
    cases h : arena.resolve with
    | error error =>
      rcases exists_missing_of_resolve h with ⟨id, name, hid, hname, -⟩
      exact absurd (hsettled id hid) (not_isSettled_of_missing? hname)
    | ok resolution => exact ⟨resolution, rfl⟩

end TextScopes.Arena
