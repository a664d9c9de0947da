import TextScopes.Proofs.Candidate
import TextScopes.Proofs.Span.Nesting

/-!
This module contains the spans of the groups of a candidate. A group that lies inside an earlier one
gets the scopes of the latest such group below its own. Earlier groups that overlap it all have it
inside, so the latest of them is the innermost, and the spans of the groups are a layer.
-/

namespace TextScopes

namespace captureSpans

/-- The invariant of going through the groups: the spans placed so far, the latest first, are those
of groups with numbers below the next ones, and earlier ones have later ones inside. -/
structure Placed (text : Text) (c : Candidate) (base : ScopeStack) (next : List (Nat × String))
    (placed : List Span) : Prop where
  fits : ∀ span ∈ placed, span.Fits text c.start c.stop base
  group : ∀ span ∈ placed, ∃ index, c.hit.HasGroup (index, span.start, span.stop)
    ∧ ∀ entry ∈ next, index < entry.1
  nested : placed.Pairwise fun later earlier =>
    later.stop ≤ earlier.start ∨ earlier.stop ≤ later.start ∨ earlier.Nests later

variable {text : Text} {c : Candidate} {base : ScopeStack} {rest : List (Nat × String)}
  {index start stop : Nat} {scope : String} {placed : List Span}

theorem Placed.skip {entry : Nat × String} (h : Placed text c base (entry :: rest) placed)
    : Placed text c base rest placed := by
  refine ⟨h.fits, ?_, h.nested⟩
  intro span hspan
  rcases h.group span hspan with ⟨i, hgroup, hnext⟩
  exact ⟨i, hgroup, fun entry hentry => hnext entry (List.mem_cons_of_mem _ hentry)⟩

abbrev parentScopes (placed : List Span) (base : ScopeStack) (start stop : Nat) : ScopeStack :=
  ((placed.find? fun span => span.start ≤ start && stop ≤ span.stop).map (·.scopes)).getD base

theorem Placed.suffix_parentScopes (h : Placed text c base rest placed) (hlt : start < stop)
    {span : Span} (hspan : span ∈ placed) (hstart : span.start ≤ start) (hstop : stop ≤ span.stop)
    : span.scopes <:+ parentScopes placed base start stop := by
  unfold parentScopes
  cases hfind : placed.find? fun span => span.start ≤ start && stop ≤ span.stop with
  | none =>
    have := List.find?_eq_none.mp hfind span hspan
    simp [hstart, hstop] at this
  | some parent =>
    rcases List.find?_eq_some_iff_append.mp hfind with ⟨hparent, later, earlier, rfl, hlater⟩
    have hnested := h.nested
    simp only [Option.map_some, Option.getD_some]
    simp only [Bool.and_eq_true, decide_eq_true_eq] at hparent
    -- no later span than the parent has the group inside, and an earlier one has the parent inside
    rcases List.mem_append.mp hspan with hspan | hspan
    . have := hlater span hspan
      simp [hstart, hstop] at this
    . cases hspan with
      | head => apply List.suffix_refl
      | tail _ hspan =>
        rw [List.pairwise_append, List.pairwise_cons] at hnested
        rcases hnested.2.1.1 span hspan with hdisjoint | hdisjoint | hnests
        . omega
        . omega
        . exact hnests.2.1

theorem Placed.base_suffix_parentScopes (h : Placed text c base rest placed)
    : base <:+ parentScopes placed base start stop := by
  unfold parentScopes
  cases hfind : placed.find? fun span => span.start ≤ start && stop ≤ span.stop with
  | none => apply List.suffix_refl
  | some parent => exact (h.fits parent (List.mem_of_find?_eq_some hfind)).isAbove.1

theorem Placed.place (h : Placed text c base ((index, scope) :: rest) placed)
    (hc : c.hit.IsSound text) (hgroup : c.hit.HasGroup (index, start, stop)) (hlt : start < stop)
    (hascending : ∀ entry ∈ rest, index < entry.1)
    : Placed text c base rest
        (⟨scope :: parentScopes placed base start stop, start, stop⟩ :: placed) := by
  have hin := hc.recordIn hgroup
  refine ⟨?_, ?_, ?_⟩
  . intro span hspan
    cases hspan with
    | head =>
      exact {
        start_le := hin.start_le
        lt := hlt
        le_stop := hin.le_stop
        isBoundary_start := hin.isBoundary_start
        isBoundary_stop := hin.isBoundary_stop
        isAbove := (ScopeStack.IsAbove.cons scope _).of_suffix h.base_suffix_parentScopes
      }
    | tail _ hspan => exact h.fits span hspan
  . intro span hspan
    cases hspan with
    | head => exact ⟨index, hgroup, hascending⟩
    | tail _ hspan => exact h.skip.group span hspan
  . rw [List.pairwise_cons]
    refine ⟨?_, h.nested⟩
    intro span hspan
    rcases h.group span hspan with ⟨i, hi, hbelow⟩
    -- the groups are read in the order of their numbers, so the new one cannot be around
    have hbelow : i < index := hbelow (index, scope) List.mem_cons_self
    rcases hc.nest hi hgroup (Nat.ne_of_lt hbelow)
      with hbefore | hbehind | ⟨-, hinside⟩ | ⟨hwrong, -⟩
    . exact Or.inr (Or.inl hbefore)
    . exact Or.inl hbehind
    . have hsuffix := h.suffix_parentScopes hlt hspan hinside.1 hinside.2
      exact Or.inr (Or.inr
        ⟨Span.contains_iff.mpr hinside, (ScopeStack.IsAbove.cons scope _).of_suffix hsuffix⟩)
    . exact absurd hwrong (Nat.lt_asymm hbelow)

theorem Placed.layered (h : Placed text c base rest placed)
    : Layered text c.start c.stop base placed := by
  refine ⟨h.fits, h.nested.imp ?_⟩
  intro later earlier hnested
  rcases hnested with hbefore | hbehind | hnests
  . exact Or.inl hbefore
  . exact Or.inr (Or.inl hbehind)
  . exact Or.inr (Or.inr (Or.inr hnests))

theorem layered_go (hc : c.hit.IsSound text) {entries : List (Nat × String)}
    (hentries : entries.Pairwise fun a b => a.1 < b.1) (h : Placed text c base entries placed)
    : Layered text c.start c.stop base (placed.reverse ++ go c base placed entries) := by
  induction entries generalizing placed with
  | nil =>
    rw [go, List.append_nil]
    exact h.layered.perm (List.reverse_perm placed).symm
  | cons entry rest ih =>
    rcases entry with ⟨index, scope⟩
    rw [List.pairwise_cons] at hentries
    unfold go
    split
    . exact ih hentries.2 h.skip
    . next start stop hgroup =>
      split
      . exact ih hentries.2 h.skip
      . next hlt =>
        have hplaced := h.place hc hgroup (Nat.lt_of_not_le hlt) hentries.1
        simpa using ih hentries.2 hplaced

end captureSpans

theorem layered_captureSpans {text : Text} {c : Candidate} (captures : CaptureMap)
    (base : ScopeStack) (hc : c.hit.IsSound text)
    : Layered text c.start c.stop base (captureSpans c captures base) := by
  have hplaced : captureSpans.Placed text c base captures.entries [] := by
    exact ⟨by simp, by simp, List.Pairwise.nil⟩
  exact captureSpans.layered_go hc captures.ascending hplaced

end TextScopes
