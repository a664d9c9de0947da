import Mathlib.Data.List.Induction
import TextScopes.Proofs.Tokenizer.Captures

/-!
This module contains the scopes of the groups of a candidate: a group that took part in the match
has the scopes of all groups around it below its own. Only the latest group around it is looked up,
and its scopes are taken over. As overlapping groups lie inside one another, these are the scopes of
the others.
-/

namespace TextScopes

namespace Candidate

/-- The offsets of a group that took part in a match and is not empty. -/
def range? (c : Candidate) (index : Nat) : Option (Nat × Nat) :=
  (c.group? index).filter fun range => range.1 < range.2

/-- Whether of two overlapping groups that are not empty the one with the greater number lies inside
the other. -/
def GroupsNest (c : Candidate) : Prop :=
  ∀ i j outer inner, i < j → c.range? i = some outer → c.range? j = some inner →
    outer.1 < inner.2 → inner.1 < outer.2 → outer.1 ≤ inner.1 ∧ inner.2 ≤ outer.2

/-- Whether a group is around given offsets. -/
def isAround (c : Candidate) (range : Nat × Nat) (index : Nat) : Bool :=
  (c.range? index).any fun outer => outer.1 ≤ range.1 && range.2 ≤ outer.2

/-- The scopes of the groups up to a given one that are around it, those of greater numbers first.
-/
def enclosing (c : Candidate) (captures : CaptureMap) (index : Nat) (range : Nat × Nat)
    : ScopeStack :=
  ((captures.entries.filter fun entry =>
    entry.1 ≤ index && c.isAround range entry.1).map (·.2)).reverse

/-- The span of a group with a scope, if it took part and is not empty. -/
def captureSpan? (c : Candidate) (captures : CaptureMap) (base : ScopeStack)
    (entry : Nat × String) : Option Span :=
  (c.range? entry.1).map fun range =>
    ⟨c.enclosing captures entry.1 range ++ base, range.1, range.2⟩

variable {c : Candidate} {captures : CaptureMap} {base : ScopeStack} {index : Nat} {scope : String}
  {range : Nat × Nat} {before rest : List (Nat × String)}

theorem range?_eq_some_iff
    : c.range? index = some range ↔ c.hit.HasGroup (index, range) ∧ range.1 < range.2 := by
  unfold range? group? Regex.Hit.HasGroup
  rw [Option.filter_eq_some_iff, decide_eq_true_eq]

theorem groupsNest_of_isSound {text : Text} (h : c.hit.IsSound text) : c.GroupsNest := by
  intro i j outer inner hij houter hinner hstart hstop
  rw [range?_eq_some_iff] at houter hinner
  rcases h.nest houter.1 hinner.1 (Nat.ne_of_lt hij)
    with hbefore | hbehind | ⟨-, hinside⟩ | ⟨hwrong, -⟩
  . exact absurd hstop (Nat.not_lt.mpr hbefore)
  . exact absurd hstart (Nat.not_lt.mpr hbehind)
  . exact hinside
  . exact absurd hwrong (Nat.lt_asymm hij)

theorem isAround_iff
    : c.isAround range index ↔ ∃ outer, c.range? index = some outer
        ∧ outer.1 ≤ range.1 ∧ range.2 ≤ outer.2 := by
  unfold isAround
  simp only [Option.any_eq_true, Bool.and_eq_true, decide_eq_true_eq]

theorem GroupsNest.isAround_eq (h : c.GroupsNest) {i j : Nat} {inner : Nat × Nat} (hij : i < j)
    (hinner : c.range? j = some inner) (hlt : range.1 < range.2) (hstart : inner.1 ≤ range.1)
    (hstop : range.2 ≤ inner.2) : c.isAround inner i = c.isAround range i := by
  rw [Bool.eq_iff_iff, isAround_iff, isAround_iff]
  constructor
  . rintro ⟨outer, houter, hle⟩
    exact ⟨outer, houter, by omega⟩
  . rintro ⟨outer, houter, hle⟩
    exact ⟨outer, houter, h i j outer inner hij houter hinner (by omega) (by omega)⟩

/-- The scopes of those of some groups that are around given offsets, the last ones first. -/
def aroundScopes (c : Candidate) (entries : List (Nat × String)) (range : Nat × Nat) : ScopeStack :=
  ((entries.filter fun entry => c.isAround range entry.1).map (·.2)).reverse

theorem enclosing_eq_cons
    (hentries : captures.entries = before ++ (index, scope) :: rest)
    (hrange : c.range? index = some range)
    : c.enclosing captures index range = scope :: c.aroundScopes before range := by
  have hascending := captures.ascending
  rw [hentries, List.pairwise_append, List.pairwise_cons] at hascending
  rcases hascending with ⟨-, ⟨hrest, -⟩, hbefore⟩
  have hself : c.isAround range index :=
    isAround_iff.mpr ⟨range, hrange, Nat.le_refl _, Nat.le_refl _⟩
  have hfirst : (before.filter fun entry => entry.1 ≤ index && c.isAround range entry.1)
      = before.filter fun entry => c.isAround range entry.1 := by
    apply List.filter_congr
    intro entry hentry
    have hlt : entry.1 < index := hbefore entry hentry (index, scope) List.mem_cons_self
    simp [Nat.le_of_lt hlt]
  have hlast : (rest.filter fun entry => entry.1 ≤ index && c.isAround range entry.1) = [] := by
    rw [List.filter_eq_nil_iff]
    intro entry hentry
    have hlt : index < entry.1 := hrest entry hentry
    simp [Nat.not_le.mpr hlt]
  unfold enclosing aroundScopes
  rw [hentries, List.filter_append, hfirst, List.filter_cons_of_pos (by simp [hself]), hlast]
  simp

theorem aroundScopes_append (entry : Nat × String)
    : c.aroundScopes (before ++ [entry]) range
      = if c.isAround range entry.1 then entry.2 :: c.aroundScopes before range
        else c.aroundScopes before range := by
  unfold aroundScopes
  rw [List.filter_append]
  split
  . next h => simp [h]
  . next h => simp [h]

theorem captureSpan?_eq_none (h : c.range? index = none)
    : c.captureSpan? captures base (index, scope) = none := by
  unfold captureSpan?
  rw [h, Option.map_none]

theorem captureSpan?_eq_some (base : ScopeStack)
    (hentries : captures.entries = before ++ (index, scope) :: rest)
    (hrange : c.range? index = some range)
    : c.captureSpan? captures base (index, scope)
      = some ⟨scope :: c.aroundScopes before range ++ base, range.1, range.2⟩ := by
  unfold captureSpan?
  rw [hrange, Option.map_some, enclosing_eq_cons hentries hrange]

/-- The scopes of the latest group that has given offsets inside are those of all groups that do. -/
theorem parentScopes_eq (hnest : c.GroupsNest) (base : ScopeStack)
    (hentries : captures.entries = before ++ rest) (hlt : range.1 < range.2)
    : captureSpans.parentScopes (before.filterMap (c.captureSpan? captures base)).reverse base
          range.1 range.2
        = c.aroundScopes before range ++ base := by
  induction before using List.reverseRecOn generalizing rest with
  | nil => rfl
  | append_singleton before entry ih =>
    rcases entry with ⟨index, scope⟩
    rw [List.append_assoc, List.singleton_append] at hentries
    specialize ih hentries
    rw [List.filterMap_append, List.reverse_append, aroundScopes_append]
    cases hrange : c.range? index with
    | none =>
      have hnone : c.captureSpan? captures base (index, scope) = none :=
        captureSpan?_eq_none hrange
      have haround : ¬ c.isAround range index := by simp [isAround, hrange]
      simpa [hnone, haround] using ih
    | some inner =>
      have hspan := captureSpan?_eq_some base hentries hrange
      have haround : c.isAround range index = (inner.1 ≤ range.1 && range.2 ≤ inner.2) := by
        simp [isAround, hrange]
      rw [List.filterMap_cons_some hspan, List.filterMap_nil]
      by_cases hinside : inner.1 ≤ range.1 ∧ range.2 ≤ inner.2
      -- what is around the latest group is around all that the group is around
      . have hsame : c.aroundScopes before inner = c.aroundScopes before range := by
          unfold aroundScopes
          congr 2
          apply List.filter_congr
          intro entry hentry
          have hbelow : entry.1 < index := by
            have hascending := captures.ascending
            rw [hentries, List.pairwise_append] at hascending
            exact hascending.2.2 entry hentry (index, scope) List.mem_cons_self
          exact hnest.isAround_eq hbelow hrange hlt hinside.1 hinside.2
        simp [captureSpans.parentScopes, haround, hinside, hsame]
      . have hfind : (decide (inner.1 ≤ range.1) && decide (range.2 ≤ inner.2)) = false := by
          simpa using hinside
        simpa [captureSpans.parentScopes, haround, hfind] using ih

theorem go_eq (hnest : c.GroupsNest) (base : ScopeStack) (before : List (Nat × String))
    (hentries : captures.entries = before ++ rest)
    : captureSpans.go c base (before.filterMap (c.captureSpan? captures base)).reverse rest
      = rest.filterMap (c.captureSpan? captures base) := by
  -- the spans placed so far are those of the groups `before`, the latest one first
  induction rest generalizing before with
  | nil => rfl
  | cons entry rest ih =>
    rcases entry with ⟨index, scope⟩
    have hnext := ih (before ++ [(index, scope)]) (by simpa using hentries)
    rw [List.filterMap_append, List.reverse_append] at hnext
    -- a group that is missing or empty has no span and is skipped
    have hskip (hnone : c.range? index = none)
        : captureSpans.go c base (before.filterMap (c.captureSpan? captures base)).reverse rest
          = ((index, scope) :: rest).filterMap (c.captureSpan? captures base) := by
      rw [List.filterMap_cons_none (captureSpan?_eq_none hnone)] at hnext ⊢
      exact hnext
    unfold captureSpans.go
    split
    . next hgroup => exact hskip (by simp [range?, hgroup])
    . next start stop hgroup =>
      split
      . next hle => exact hskip (by simp [range?, hgroup, hle])
      . next hlt =>
        have hrange : c.range? index = some (start, stop) := by
          simpa [range?, hgroup] using hlt
        have hlt : (start, stop).1 < (start, stop).2 := Nat.lt_of_not_le hlt
        have hparent := parentScopes_eq hnest base hentries hlt
        rw [List.filterMap_cons_some (captureSpan?_eq_some base hentries hrange)] at hnext ⊢
        dsimp only [captureSpans.parentScopes] at hparent ⊢
        rw [hparent]
        exact congrArg _ hnext

end Candidate

/-- Each group that has a scope, took part in the match and is not empty has one span, over its
offsets, and there are no others. The scopes of the span are those of all such groups up to its own
that are around it, those of greater numbers first, above what holds around the candidate. -/
theorem captureSpans_eq_enclosing {c : Candidate} {captures : CaptureMap}
    (hnest : c.GroupsNest) (base : ScopeStack)
    : captureSpans c captures base = captures.entries.filterMap (c.captureSpan? captures base) :=
  Candidate.go_eq hnest base [] rfl

/-- Scopes for groups that cover the same text, that lie inside one another and that are missing. -/
def pairCaptures : CaptureMap :=
  ⟨[(0, "whole"), (1, "pair"), (2, "first"), (3, "other"), (7, "none")], by decide⟩

theorem captureSpans_eq_enclosing_pair
    : ∃ regex hit, Regex.compile "((a)b)|(c)" = .ok regex ∧ hit ∈ regex.hits "ab".toList
        ∧ (⟨0, .matching, hit⟩ : Candidate).GroupsNest
        ∧ captureSpans ⟨0, .matching, hit⟩ pairCaptures ["source"]
          = [⟨["whole", "source"], 0, 2⟩, ⟨["pair", "whole", "source"], 0, 2⟩,
              ⟨["first", "pair", "whole", "source"], 0, 1⟩] := by
  refine ⟨_, ⟨0, 2, [some (0, 2), some (0, 2), some (0, 1), none]⟩, rfl, by decide, ?_⟩
  have hgroups := @groupsFrom_of_compileAt .firstLine "((a)b)|(c)" _ rfl
  have hsound := @Regex.isSound_of_mem_hits _ hgroups "ab".toList
    ⟨0, 2, [some (0, 2), some (0, 2), some (0, 1), none]⟩ (by decide)
  have hnest := @Candidate.groupsNest_of_isSound ⟨0, .matching, _⟩ _ hsound
  refine ⟨hnest, ?_⟩
  rw [captureSpans_eq_enclosing hnest]
  decide

end TextScopes
