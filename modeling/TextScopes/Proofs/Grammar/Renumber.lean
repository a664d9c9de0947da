import Mathlib.Data.Set.Function
import TextScopes.Proofs.Grammar.ScanOrder

/-!
This module contains grammars with the same rules in other places. Only the rules that are reached
from the root patterns need to be the same, and their includes may go by other names. Then the same
rules are active at each level, in the same order, and the levels are found in the same order.
-/

namespace TextScopes

def ActiveSet.map (f : RuleId → RuleId) (set : ActiveSet) : ActiveSet := ⟨set.rules.map f⟩

def Region.map (f : RuleId → RuleId) (region : Region) : Region :=
  { region with patterns := region.patterns.map f }

def Expansion.map (f : RuleId → RuleId) (e : Expansion) : Expansion :=
  ⟨e.visited.map f, e.found.map f⟩

namespace Arena

/-- Whether two kinds of rules are the same, where a rule has another number in the other arena. Two
includes are the same if their entries are. -/
inductive Corresponds (arena other : Arena) (f : RuleId → RuleId) : RuleKind → RuleKind → Prop
  | matching (regex : Regex) (captures : CaptureMap)
    : Corresponds arena other f (.matching regex captures) (.matching regex captures)
  | region (region : Region)
    : Corresponds arena other f (.region region) (.region (region.map f))
  | container (patterns : List RuleId)
    : Corresponds arena other f (.container patterns) (.container (patterns.map f))
  | root : Corresponds arena other f (.reference .root) (.reference .root)
  | entry {name name' : String} {id : RuleId} (h : arena.repository.get? name = some id)
    (h' : other.repository.get? name' = some (f id))
    : Corresponds arena other f (.reference (.entry name)) (.reference (.entry name'))

/-- Whether another arena has all rules that are reached in an arena, each once and with the same
rules inside, and has the root patterns in the same order. -/
structure Renumbers (arena other : Arena) (f : RuleId → RuleId) : Prop where
  injOn : Set.InjOn f {id | arena.Reaches id}
  patterns : other.patterns = arena.patterns.map f
  rule {id : RuleId} (h : arena.Reaches id)
    : ∃ name kind kind', arena.rule? id = some ⟨name, kind⟩
      ∧ other.rule? (f id) = some ⟨name, kind'⟩ ∧ arena.Corresponds other f kind kind'

end Arena

section Lists

variable {f : RuleId → RuleId} {reached : Set RuleId} {ids : List RuleId} {id : RuleId}

theorem contains_map (hf : Set.InjOn f reached) (hids : ∀ i ∈ ids, i ∈ reached)
    (hid : id ∈ reached) : (ids.map f).contains (f id) = ids.contains id := by
  rw [Bool.eq_iff_iff, List.contains_iff_mem, List.contains_iff_mem, List.mem_map]
  constructor
  . rintro ⟨i, hi, heq⟩
    exact hf (hids i hi) hid heq ▸ hi
  . intro h
    exact ⟨id, h, rfl⟩

theorem eraseDups_map (hf : Set.InjOn f {i | i ∈ ids})
    : (ids.map f).eraseDups = ids.eraseDups.map f := by
  induction h : ids.length using Nat.strong_induction_on generalizing ids with
  | _ n ih =>
    cases ids with
    | nil => rfl
    | cons id rest =>
      have hfilter : ((rest.map f).filter fun i => !i == f id)
          = (rest.filter fun i => !i == id).map f := by
        rw [List.filter_map]
        congr 1
        apply List.filter_congr
        intro i hi
        have hiff : f i = f id ↔ i = id :=
          hf.eq_iff (List.mem_cons_of_mem _ hi) List.mem_cons_self
        simp [hiff]
      have hlt : (rest.filter fun i => !i == id).length < n := by
        have := List.length_filter_le (fun i => !i == id) rest
        rw [List.length_cons] at h
        omega
      have hsub : Set.InjOn f {i | i ∈ rest.filter fun i => !i == id} := by
        intro i hi j hj
        exact hf (List.mem_cons_of_mem _ (List.mem_filter.mp hi).1)
          (List.mem_cons_of_mem _ (List.mem_filter.mp hj).1)
      rw [List.map_cons, List.eraseDups_cons, List.eraseDups_cons, List.map_cons, hfilter,
        ih _ hlt hsub rfl]

theorem foundWithin_map {inside inside' : RuleId → List RuleId} {roots order order' : List RuleId}
    (horder : ∀ steps, ∀ id ∈ foundWithin inside roots steps, id ∈ order)
    (horder' : ∀ steps, ∀ id ∈ foundWithin inside' (roots.map f) steps, id ∈ order')
    (hinside : ∀ id ∈ order, f id ∈ order' → inside' (f id) = (inside id).map f)
    (hf : Set.InjOn f {id | id ∈ order}) (steps : Nat)
    : foundWithin inside' (roots.map f) steps = (foundWithin inside roots steps).map f := by
  induction steps with
  | zero => rfl
  | succ steps ih =>
    have hflatMap : (foundWithin inside' (roots.map f) steps).flatMap inside'
        = ((foundWithin inside roots steps).flatMap inside).map f := by
      rw [ih, List.flatMap_map, List.map_flatMap]
      apply List.flatMap_congr
      intro id hid
      refine hinside id (horder steps id hid) (horder' steps _ ?_)
      rw [ih]
      exact List.mem_map_of_mem hid
    have hsub
        : Set.InjOn f {id | id ∈ roots ++ (foundWithin inside roots steps).flatMap inside} := by
      intro i hi j hj
      apply hf
      . exact horder (steps + 1) i (List.mem_eraseDups.mpr hi)
      . exact horder (steps + 1) j (List.mem_eraseDups.mpr hj)
    rw [foundWithin, foundWithin, hflatMap, ← List.map_append, eraseDups_map hsub]

end Lists

namespace Arena.Renumbers

variable {arena other : Arena} {f : RuleId → RuleId} {id : RuleId} {ids : List RuleId}
  {e e' : Expansion} {depth depth' : Nat}

theorem standIns_eq (h : arena.Renumbers other f) {kind kind' : RuleKind}
    (hkind : arena.Corresponds other f kind kind') (name : Option String)
    : ∃ ids, arena.standIns ⟨name, kind⟩ = .ok ids
      ∧ other.standIns ⟨name, kind'⟩ = .ok (ids.map (List.map f)) := by
  cases hkind with
  | matching => exact ⟨none, rfl, rfl⟩
  | region => exact ⟨none, rfl, rfl⟩
  | container patterns => exact ⟨some patterns, rfl, rfl⟩
  | root =>
    refine ⟨some arena.patterns, rfl, ?_⟩
    rw [Option.map_some, ← h.patterns]
    rfl
  | @entry name name' id hentry hentry' =>
    refine ⟨some [id], ?_, ?_⟩
    . unfold standIns
      dsimp only
      rw [hentry]
    . unfold standIns
      dsimp only
      rw [hentry']
      rfl

/-- An expansion of rules that are reached, with enough levels for the rules that are left. -/
structure IsBounded (arena other : Arena) (f : RuleId → RuleId) (depth depth' : Nat)
    (e : Expansion) : Prop where
  reached : ∀ id ∈ e.visited, arena.Reaches id
  lt : arena.unvisited e.visited < depth
  lt' : other.unvisited (e.visited.map f) < depth'

theorem IsBounded.expands (h : IsBounded arena other f depth depth' e)
    (hids : ∀ id ∈ ids, arena.Reaches id) (hexpands : arena.Expands ids e e')
    : IsBounded arena other f depth depth' e' := by
  refine ⟨?_, ?_, ?_⟩
  . intro id hid
    by_cases hold : id ∈ e.visited
    . exact h.reached id hold
    . rcases hexpands.reached id hid hold with ⟨root, hroot, hleads⟩
      exact (hids root hroot).leads hleads
  . exact Nat.lt_of_le_of_lt (unvisited_le hexpands.subset) h.lt
  . refine Nat.lt_of_le_of_lt (unvisited_le ?_) h.lt'
    intro id hid
    rcases List.mem_map.mp hid with ⟨i, hi, rfl⟩
    exact List.mem_map_of_mem (hexpands.subset i hi)

theorem foldlM_eq (hids : ∀ id ∈ ids, arena.Reaches id)
    (hexpand : ∀ {id e}, arena.Reaches id → IsBounded arena other f depth depth' e →
      other.expand depth' (f id) (e.map f) = (arena.expand depth id e).map (·.map f))
    (he : IsBounded arena other f depth depth' e)
    : (ids.map f).foldlM (fun e id => other.expand depth' id e) (e.map f)
      = (ids.foldlM (fun e id => arena.expand depth id e) e).map (·.map f) := by
  induction ids generalizing e with
  | nil => rfl
  | cons id ids ih =>
    have hid := hids id List.mem_cons_self
    rw [List.map_cons, List.foldlM_cons, List.foldlM_cons, hexpand hid he]
    cases hfirst : arena.expand depth id e with
    | error error => rfl
    | ok e' =>
      have hexpands := expands_expand he.lt hfirst
      exact ih (fun i hi => hids i (List.mem_cons_of_mem _ hi))
        (he.expands (fun i hi => List.mem_singleton.mp hi ▸ hid) hexpands)

theorem expand_eq (h : arena.Renumbers other f) (hid : arena.Reaches id)
    (he : IsBounded arena other f depth depth' e)
    : other.expand depth' (f id) (e.map f) = (arena.expand depth id e).map (·.map f) := by
  induction depth generalizing id e depth' with
  | zero => exact absurd he.lt (Nat.not_lt_zero _)
  | succ depth ih =>
    cases depth' with
    | zero => exact absurd he.lt' (Nat.not_lt_zero _)
    | succ depth' =>
      rcases h.rule hid with ⟨name, kind, kind', hrule, hrule', hkind⟩
      rcases h.standIns_eq hkind name with ⟨stand, hstand, hstand'⟩
      have hcontains : (e.map f).visited.contains (f id) = e.visited.contains id :=
        contains_map h.injOn he.reached hid
      unfold expand
      rw [hcontains]
      split
      . rfl
      . next hnew =>
        dsimp only
        rw [hrule, hrule']
        dsimp only
        rw [hstand, hstand']
        cases stand with
        | none =>
          dsimp only [Option.map_none, bind, Except.bind, Except.map, Expansion.map]
          rw [List.map_append]
          rfl
        | some ids =>
          have hids : ∀ i ∈ ids, arena.Reaches i :=
            fun i hi => hid.follow ⟨_, ids, hrule, hstand, hi⟩
          have hnew' : f id ∉ e.visited.map f := by
            rw [← List.contains_iff_mem]
            exact hcontains ▸ hnew
          -- both expansions enter the rule, so that neither runs out of levels
          have hlt := unvisited_cons_lt hrule (by simpa using hnew)
          have hlt' := unvisited_cons_lt hrule' hnew'
          have hentered : IsBounded arena other f depth depth' ⟨id :: e.visited, e.found⟩ := by
            refine ⟨?_, ?_, ?_⟩
            . intro i hi
              rcases List.mem_cons.mp hi with rfl | hi
              . exact hid
              . exact he.reached i hi
            . exact Nat.lt_of_lt_of_le hlt (Nat.lt_succ_iff.mp he.lt)
            . exact Nat.lt_of_lt_of_le hlt' (Nat.lt_succ_iff.mp he.lt')
          exact foldlM_eq hids ih hentered

theorem resolveSet_eq (h : arena.Renumbers other f) (hids : ∀ id ∈ ids, arena.Reaches id)
    : other.resolveSet (ids.map f) = (arena.resolveSet ids).map (·.map f) := by
  have hbounded : IsBounded arena other f (arena.rules.length + 1) (other.rules.length + 1)
      ⟨[], []⟩ := by
    refine ⟨nofun, ?_, ?_⟩
    . simp [unvisited]
    . simp [unvisited]
  have hfold := foldlM_eq hids h.expand_eq hbounded
  have hempty : Expansion.map f ⟨[], []⟩ = ⟨[], []⟩ := rfl
  rw [hempty] at hfold
  unfold resolveSet
  rw [hfold]
  cases ids.foldlM (fun e id => arena.expand (arena.rules.length + 1) id e) ⟨[], []⟩ with
  | error error => rfl
  | ok e => rfl

theorem region?_eq (h : arena.Renumbers other f) (hid : arena.Reaches id)
    : other.region? (f id) = (arena.region? id).map (·.map f) := by
  rcases h.rule hid with ⟨name, kind, kind', hrule, hrule', hkind⟩
  unfold Arena.region?
  rw [hrule, hrule']
  cases hkind with
  | _ => rfl

theorem inside?_eq (h : arena.Renumbers other f) (hid : arena.Reaches id)
    : other.inside? (f id) = (arena.inside? id).map (·.map f) := by
  unfold inside?
  rw [h.region?_eq hid]
  cases hregion : arena.region? id with
  | none => rfl
  | some region =>
    have hids : ∀ child ∈ region.patterns, arena.Reaches child :=
      fun child hchild => hid.inside hregion hchild
    rw [Option.map_some, Option.bind_some, Option.bind_some, Region.map, h.resolveSet_eq hids]
    cases arena.resolveSet region.patterns with
    | error error => rfl
    | ok set => rfl

end Arena.Renumbers

/-- Whether the same rules are active at each level, under other numbers. -/
structure Resolution.Renumbers (resolution other : Resolution) (f : RuleId → RuleId) : Prop where
  root : other.root = resolution.root.map f
  scanOrder : other.scanOrder = resolution.scanOrder.map f
  region {id : RuleId} (h : id ∈ resolution.scanOrder)
    : other.region? (f id) = (resolution.region? id).map (·.map f)

namespace Arena.Renumbers

variable {arena other : Arena} {f : RuleId → RuleId} {resolution resolution' : Resolution}

theorem renumbers_resolution (h : arena.Renumbers other f)
    (hresolve : arena.resolve = .ok resolution) (hresolve' : other.resolve = .ok resolution')
    : resolution.Renumbers resolution' f := by
  rcases exists_search_of_resolve hresolve with ⟨hroot, hsearch⟩
  rcases exists_search_of_resolve hresolve' with ⟨hroot', hsearch'⟩
  have hreached : ∀ id ∈ resolution.scanOrder, arena.Reaches id :=
    fun id hid => hsearch.reached id (List.mem_append_left _ hid)
  have hrootEq : resolution'.root = resolution.root.map f := by
    rw [h.patterns, h.resolveSet_eq fun id hid => .pattern hid, hroot] at hroot'
    exact (Except.ok.inj hroot').symm
  have hroots := (resolves_resolveSet hroot).nodup
  have hroots' := (resolves_resolveSet hroot').nodup
  have hinside : ∀ id ∈ resolution.scanOrder, f id ∈ resolution'.scanOrder →
      resolution'.region? (f id) = (resolution.region? id).map (·.map f) := by
    intro id hid hid'
    rw [hsearch.region?_eq, hsearch'.region?_eq, if_pos hid, if_pos hid',
      h.inside?_eq (hreached id hid)]
  -- as many steps as both grammars have rules find all rules in either of them
  have horder : resolution'.scanOrder = resolution.scanOrder.map f := by
    have hfound : foundWithin resolution.inside resolution.root.rules
        (max arena.rules.length other.rules.length) = resolution.scanOrder :=
      hsearch.foundWithin_eq hroots (Nat.le_max_left _ _)
    have hfound' : foundWithin resolution'.inside resolution'.root.rules
        (max arena.rules.length other.rules.length) = resolution'.scanOrder :=
      hsearch'.foundWithin_eq hroots' (Nat.le_max_right _ _)
    have hrules : resolution'.root.rules = resolution.root.rules.map f := by
      rw [hrootEq]
      rfl
    rw [← hfound', ← hfound, hrules]
    apply foundWithin_map
    . intro steps id hid
      exact (isPrefix_foundWithin hsearch.order_eq hroots steps).subset hid
    . intro steps id hid
      rw [← hrules] at hid
      exact (isPrefix_foundWithin hsearch'.order_eq hroots' steps).subset hid
    . intro id hid hid'
      unfold Resolution.inside
      rw [hinside id hid hid']
      cases resolution.region? id with
      | none => rfl
      | some set => rfl
    . exact h.injOn.mono hreached
  refine ⟨hrootEq, horder, ?_⟩
  intro id hid
  refine hinside id hid ?_
  rw [horder]
  exact List.mem_map_of_mem hid

end Arena.Renumbers

end TextScopes
