import TextScopes.Proofs.Grammar.Resolve

/-!
This module contains which rules are scanned and in which order. They are the rules that the root
set leads to through the rules inside regions, no others, and they stand in the order of a search
that goes through all regions of one depth before those of the next.
-/

namespace TextScopes

namespace Arena

abbrev region? (arena : Arena) (id : RuleId) : Option Region := (arena.rule? id).bind Rule.region?

/-- The rules that are active inside a rule, if it is a region. -/
def inside? (arena : Arena) (id : RuleId) : Option ActiveSet :=
  (arena.region? id).bind fun region => (arena.resolveSet region.patterns).toOption

/-- Whether a set of rules holds the root set and, with each region, the rules that are active
inside it. -/
def IsClosed (arena : Arena) (root : ActiveSet) (rules : Set RuleId) : Prop :=
  (∀ id ∈ root.rules, id ∈ rules)
    ∧ ∀ id ∈ rules, ∀ region, arena.region? id = some region →
        ∀ set, arena.resolveSet region.patterns = .ok set → ∀ child ∈ set.rules, child ∈ rules

end Arena

/-- The rules found in at most so many steps from given ones, in the order in which they are found:
a step goes from each rule found so far, in turn, to the rules inside it. -/
def foundWithin (inside : RuleId → List RuleId) (roots : List RuleId) : (steps : Nat) → List RuleId
  | 0 => roots
  | steps + 1 => (roots ++ (foundWithin inside roots steps).flatMap inside).eraseDups

section EraseDups

variable {α : Type} [DecidableEq α] {l l' : List α}

theorem eraseDups_eq_self (h : l.Nodup) : l.eraseDups = l := by
  induction l with
  | nil => rfl
  | cons a l ih =>
    rw [List.nodup_cons] at h
    have hfilter : (l.filter fun b => !b == a) = l := by
      rw [List.filter_eq_self]
      intro b hb
      have hne : b ≠ a := fun heq => h.1 (heq ▸ hb)
      simpa using hne
    rw [List.eraseDups_cons, hfilter, ih h.2]

theorem isPrefix_eraseDups (h : l <+: l') : l.eraseDups <+: l'.eraseDups := by
  rcases h with ⟨rest, rfl⟩
  rw [List.eraseDups_append]
  exact List.prefix_append _ _

theorem eraseDups_append_eq (h : l'.Nodup)
    : (l ++ l').eraseDups = l.eraseDups ++ l'.filter fun a => !l.eraseDups.contains a := by
  have hnew : l'.removeAll l = l'.filter fun a => !l.eraseDups.contains a := by
    unfold List.removeAll
    simp
  rw [List.eraseDups_append, hnew, eraseDups_eq_self (h.filter _)]

end EraseDups

theorem lookup_filterMap {f : RuleId → Option ActiveSet} {ids : List RuleId} {id : RuleId}
    : (ids.filterMap fun id => (f id).map (id, ·)).lookup id = if id ∈ ids then f id else none := by
  induction ids with
  | nil => rfl
  | cons first ids ih =>
    rw [List.filterMap_cons]
    by_cases heq : id = first
    . subst heq
      cases hf : f id with
      | none => simp [ih, hf]
      | some set => simp
    . have hmem : id ∈ first :: ids ↔ id ∈ ids := by simp [heq]
      simp only [hmem]
      cases f first with
      | none => exact ih
      | some set => simpa [List.lookup_cons, beq_eq_false_iff_ne.mpr heq] using ih

section FoundWithin

variable {inside : RuleId → List RuleId} {roots order : List RuleId}

theorem isPrefix_foundWithin (horder : order = (roots ++ order.flatMap inside).eraseDups)
    (hroots : roots.Nodup) (steps : Nat) : foundWithin inside roots steps <+: order := by
  induction steps with
  | zero =>
    rw [horder, List.eraseDups_append, eraseDups_eq_self hroots]
    exact List.prefix_append _ _
  | succ steps ih =>
    rcases ih with ⟨rest, hrest⟩
    have hprefix : (foundWithin inside roots steps).flatMap inside <+: order.flatMap inside := by
      rw [← hrest, List.flatMap_append]
      exact List.prefix_append _ _
    have := isPrefix_eraseDups ((List.prefix_append_right_inj roots).mpr hprefix)
    rw [← horder] at this
    exact this

theorem isPrefix_foundWithin_succ (hroots : roots.Nodup) (steps : Nat)
    : foundWithin inside roots steps <+: foundWithin inside roots (steps + 1) := by
  induction steps with
  | zero =>
    unfold foundWithin
    rw [List.eraseDups_append, eraseDups_eq_self hroots]
    exact List.prefix_append _ _
  | succ steps ih =>
    rcases ih with ⟨rest, hrest⟩
    rw [foundWithin, foundWithin, ← hrest, List.flatMap_append, ← List.append_assoc]
    exact isPrefix_eraseDups (List.prefix_append _ _)

theorem foundWithin_eq (horder : order = (roots ++ order.flatMap inside).eraseDups)
    (hroots : roots.Nodup)
    (hleast : ∀ found : List RuleId, (∀ id ∈ roots, id ∈ found) →
      (∀ id ∈ found, ∀ child ∈ inside id, child ∈ found) → ∀ id ∈ order, id ∈ found)
    (hnodup : order.Nodup) {steps : Nat} (hsteps : order.length ≤ steps)
    : foundWithin inside roots steps = order := by
  -- where a further step finds nothing, all is found, so that each step before finds something
  have hall {n : Nat} (hstays : foundWithin inside roots (n + 1) = foundWithin inside roots n)
      : order.length ≤ (foundWithin inside roots n).length := by
    apply (List.subperm_of_subset hnodup _).length_le
    apply hleast
    . intro id hid
      rw [← hstays, foundWithin, List.mem_eraseDups]
      exact List.mem_append_left _ hid
    . intro id hid child hchild
      rw [← hstays, foundWithin, List.mem_eraseDups]
      exact List.mem_append_right _ (List.mem_flatMap.mpr ⟨id, hid, hchild⟩)
  have hgrows (n : Nat) : min n order.length ≤ (foundWithin inside roots n).length := by
    induction n with
    | zero => simp
    | succ n ih =>
      have hnext : foundWithin inside roots n <+: foundWithin inside roots (n + 1) :=
        isPrefix_foundWithin_succ hroots n
      by_cases heq : foundWithin inside roots (n + 1) = foundWithin inside roots n
      . have := hall heq
        rw [heq]
        omega
      . have hle := hnext.length_le
        have hne : (foundWithin inside roots n).length
            ≠ (foundWithin inside roots (n + 1)).length :=
          fun hlength => heq (hnext.eq_of_length hlength).symm
        omega
  apply (isPrefix_foundWithin horder hroots steps).eq_of_length
  have hle := (isPrefix_foundWithin horder hroots steps).length_le
  have := hgrows steps
  omega

end FoundWithin

namespace Arena

variable {arena : Arena} {id : RuleId} {done waiting : List RuleId} {resolution next : Resolution}
  {top set : ActiveSet} {region : Region} {rounds : Nat}

theorem inside?_of_resolveSet (hregion : arena.region? id = some region)
    (hset : arena.resolveSet region.patterns = .ok set) : arena.inside? id = some set := by
  unfold inside?
  rw [hregion, Option.bind_some, hset]
  rfl

theorem inside?_eq_some_iff
    : arena.inside? id = some set
        ↔ ∃ region, arena.region? id = some region
          ∧ arena.resolveSet region.patterns = .ok set := by
  constructor
  . intro h
    rcases Option.bind_eq_some_iff.mp h with ⟨region, hregion, hset⟩
    refine ⟨region, hregion, ?_⟩
    cases hresolve : arena.resolveSet region.patterns with
    | error error =>
      rw [hresolve] at hset
      contradiction
    | ok set' =>
      rw [hresolve] at hset
      cases hset
      rfl
  . rintro ⟨region, hregion, hset⟩
    exact inside?_of_resolveSet hregion hset

/-- The invariant of finding the levels, with the levels found so far and the order of what is
found. -/
structure Search (arena : Arena) (top : ActiveSet) (done waiting : List RuleId)
    (resolution : Resolution) : Prop extends arena.Levels done waiting resolution where
  root_eq : resolution.root = top
  regions : resolution.regions = done.filterMap fun id => (arena.inside? id).map (id, ·)
  isSome : ∀ id ∈ done, ∀ region, arena.region? id = some region → (arena.inside? id).isSome
  order : done ++ waiting
    = (top.rules ++ done.flatMap fun id => (arena.inside? id).elim [] (·.rules)).eraseDups
  least : ∀ rules : Set RuleId, arena.IsClosed top rules → ∀ id ∈ done ++ waiting, id ∈ rules

namespace Search

theorem initial (h : arena.Resolves arena.patterns top)
    : arena.Search top [] top.rules ⟨top, [], top.rules⟩ where
  toLevels := .initial h
  root_eq := rfl
  regions := rfl
  isSome := nofun
  order := by simp [eraseDups_eq_self h.nodup]
  least rules hclosed := hclosed.1

theorem skip (h : arena.Search top done (id :: waiting) resolution)
    (hregion : arena.region? id = none) : arena.Search top (done ++ [id]) waiting resolution := by
  have hinside : arena.inside? id = none := by
    unfold inside?
    rw [hregion]
    rfl
  have heq : done ++ [id] ++ waiting = done ++ id :: waiting := by simp
  refine ⟨h.toLevels.skip hregion, h.root_eq, ?_, ?_, ?_, ?_⟩
  . simp [h.regions, hinside]
  . intro i hi region hi'
    rcases List.mem_append.mp hi with hi | hi
    . exact h.isSome i hi region hi'
    . rw [List.mem_singleton.mp hi, hregion] at hi'
      contradiction
  . rw [heq, h.order]
    simp [hinside]
  . rw [heq]
    exact h.least

theorem level (h : arena.Search top done (id :: waiting) resolution)
    (hregion : arena.region? id = some region)
    (hset : arena.resolveSet region.patterns = .ok set)
    : let new := set.rules.filter fun id => !resolution.scanOrder.contains id
      arena.Search top (done ++ [id]) (waiting ++ new)
        { resolution with
          regions := resolution.regions ++ [(id, set)],
          scanOrder := resolution.scanOrder ++ new } := by
  intro new
  have hresolves := resolves_resolveSet hset
  have hinside := inside?_of_resolveSet hregion hset
  have heq : done ++ [id] ++ (waiting ++ new) = done ++ id :: waiting ++ new := by simp
  refine ⟨h.toLevels.level hregion hresolves, h.root_eq, ?_, ?_, ?_, ?_⟩
  . simp [h.regions, hinside]
  . intro i hi region' hi'
    rcases List.mem_append.mp hi with hi | hi
    . exact h.isSome i hi region' hi'
    . rw [List.mem_singleton.mp hi, hinside]
      rfl
  . rw [heq, List.flatMap_append, ← List.append_assoc]
    simp only [List.flatMap_singleton, hinside, Option.elim_some]
    rw [eraseDups_append_eq hresolves.nodup, ← h.order, ← h.scanOrder]
  . intro rules hclosed i hi
    rw [heq] at hi
    rcases List.mem_append.mp hi with hi | hi
    . exact h.least rules hclosed i hi
    . exact hclosed.2 id (h.least rules hclosed id (by simp)) region hregion set hset i
        (List.mem_filter.mp hi).1

theorem resolveRegions (h : arena.Search top done waiting resolution)
    (hrounds : arena.rules.length ≤ done.length + rounds)
    (hnext : arena.resolveRegions rounds waiting resolution = .ok next)
    : ∃ found, arena.Search top found [] next :=
  Levels.exists_of_resolveRegions (fun h => h.toLevels) (fun h => h.skip) (fun h => h.level) h
    hrounds hnext

end Search

theorem exists_search_of_resolve (h : arena.resolve = .ok resolution)
    : arena.resolveSet arena.patterns = .ok resolution.root
        ∧ arena.Search resolution.root resolution.scanOrder [] resolution := by
  rcases bind_eq_ok_iff.mp h with ⟨top, hroot, hregions⟩
  have hinitial := Search.initial (resolves_resolveSet hroot)
  rcases hinitial.resolveRegions (by simp) hregions with ⟨found, hfound⟩
  have horder := hfound.scanOrder
  rw [List.append_nil] at horder
  have hrootEq := hfound.root_eq
  subst hrootEq
  rw [horder]
  exact ⟨hroot, hfound⟩

end Arena

namespace Resolution

/-- The rules that are active inside a rule; none if it is no region. -/
def inside (resolution : Resolution) (id : RuleId) : List RuleId :=
  (resolution.region? id).elim [] (·.rules)

end Resolution

namespace Arena.Search

variable {arena : Arena} {resolution : Resolution} {id : RuleId}

theorem region?_eq (h : arena.Search resolution.root resolution.scanOrder [] resolution)
    (id : RuleId)
    : resolution.region? id = if id ∈ resolution.scanOrder then arena.inside? id else none := by
  unfold Resolution.region?
  rw [h.regions, lookup_filterMap]

theorem region?_eq_some_iff (h : arena.Search resolution.root resolution.scanOrder [] resolution)
    {set : ActiveSet}
    : resolution.region? id = some set
        ↔ id ∈ resolution.scanOrder ∧ arena.inside? id = some set := by
  rw [h.region?_eq]
  split
  . next hid => simp [hid]
  . next hid => simp [hid]

theorem exists_region? (h : arena.Search resolution.root resolution.scanOrder [] resolution)
    (hid : id ∈ resolution.scanOrder) {region : Region} (hregion : arena.region? id = some region)
    : ∃ set, resolution.region? id = some set := by
  rcases Option.isSome_iff_exists.mp (h.isSome id hid region hregion) with ⟨set, hset⟩
  exact ⟨set, h.region?_eq_some_iff.mpr ⟨hid, hset⟩⟩

theorem resolveSet_of_region?
    (h : arena.Search resolution.root resolution.scanOrder [] resolution) {set : ActiveSet}
    (hset : resolution.region? id = some set) {region : Region}
    (hregion : arena.region? id = some region) : arena.resolveSet region.patterns = .ok set := by
  rcases inside?_eq_some_iff.mp (h.region?_eq_some_iff.mp hset).2 with ⟨region', hregion', hset⟩
  cases hregion.symm.trans hregion'
  exact hset

theorem order_eq (h : arena.Search resolution.root resolution.scanOrder [] resolution)
    : resolution.scanOrder
      = (resolution.root.rules ++ resolution.scanOrder.flatMap resolution.inside).eraseDups := by
  have horder := h.order
  rw [List.append_nil] at horder
  have hinside : resolution.scanOrder.flatMap resolution.inside
      = resolution.scanOrder.flatMap fun id => (arena.inside? id).elim [] (·.rules) := by
    apply List.flatMap_congr
    intro id hid
    unfold Resolution.inside
    rw [h.region?_eq, if_pos hid]
  rw [hinside]
  exact horder

theorem inside_eq (h : arena.Search resolution.root resolution.scanOrder [] resolution)
    (hid : id ∈ resolution.scanOrder) {region : Region} (hregion : arena.region? id = some region)
    {set : ActiveSet} (hset : arena.resolveSet region.patterns = .ok set)
    : resolution.inside id = set.rules := by
  unfold Resolution.inside
  rw [h.region?_eq, if_pos hid, inside?_of_resolveSet hregion hset]
  rfl

theorem isClosed (h : arena.Search resolution.root resolution.scanOrder [] resolution)
    : arena.IsClosed resolution.root {id | id ∈ resolution.scanOrder} := by
  have hmem {id : RuleId}
      (hid : id ∈ resolution.root.rules ++ resolution.scanOrder.flatMap resolution.inside)
      : id ∈ resolution.scanOrder := by
    rw [h.order_eq, List.mem_eraseDups]
    exact hid
  refine ⟨fun id hid => hmem (List.mem_append_left _ hid), ?_⟩
  intro id hid region hregion set hset child hchild
  apply hmem
  apply List.mem_append_right
  refine List.mem_flatMap.mpr ⟨id, hid, ?_⟩
  rw [h.inside_eq hid hregion hset]
  exact hchild

/-- The rules that are scanned stand as a search finds them that goes through all rules found in one
step before those found in the next. -/
theorem foundWithin_eq (h : arena.Search resolution.root resolution.scanOrder [] resolution)
    (hroot : resolution.root.rules.Nodup) {steps : Nat}
    (hsteps : arena.rules.length ≤ steps)
    : foundWithin resolution.inside resolution.root.rules steps = resolution.scanOrder := by
  have hlength := h.toLevels.length_le
  have hnodup := h.nodup
  rw [List.append_nil] at hlength hnodup
  apply TextScopes.foundWithin_eq h.order_eq hroot _ hnodup (Nat.le_trans hlength hsteps)
  intro found hfound hinside id hid
  have hclosed : arena.IsClosed resolution.root {id | id ∈ found ∧ id ∈ resolution.scanOrder} := by
    refine ⟨fun id hid => ⟨hfound id hid, h.isClosed.1 id hid⟩, ?_⟩
    intro id hid region hregion set hset child hchild
    refine ⟨hinside id hid.1 child ?_, h.isClosed.2 id hid.2 region hregion set hset child hchild⟩
    rw [h.inside_eq hid.2 hregion hset]
    exact hchild
  exact (h.least _ hclosed id (by simpa using hid)).1

end Arena.Search

end TextScopes
