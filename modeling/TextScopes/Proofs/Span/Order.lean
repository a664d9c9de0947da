import Mathlib.Data.List.Pairwise
import TextScopes.Proofs.Span.Nesting

/-!
This module contains the order of spans. Sorting a layer puts every span before the spans that nest
in it, and there is only one way to do so. Spans that are put together in the order of a text are
sorted already.
-/

namespace TextScopes

namespace Span

/-- Whether a span must stand before another one: the strict form of `Span.le`. -/
def Precedes (a b : Span) : Prop :=
  a.start < b.start ∨
    (a.start = b.start ∧
      (b.stop < a.stop ∨ (a.stop = b.stop ∧ a.scopes.length < b.scopes.length)))

theorem le_iff {a b : Span}
    : a.le b ↔ a.start < b.start ∨ (a.start = b.start ∧
        (b.stop < a.stop ∨ (a.stop = b.stop ∧ a.scopes.length ≤ b.scopes.length))) := by
  simp [le]

theorem le_trans (a b c : Span) (hab : a.le b) (hbc : b.le c) : a.le c := by
  rw [le_iff] at *
  omega

theorem le_total (a b : Span) : a.le b || b.le a := by
  rw [Bool.or_eq_true, le_iff, le_iff]
  omega

theorem pairwise_le_mergeSort (spans : List Span)
    : (spans.mergeSort le).Pairwise fun a b => a.le b := by
  exact List.pairwise_mergeSort le_trans le_total spans

theorem Compatible.of_le {a b : Span} (h : Compatible a b) (hle : a.le b) (hb : b.start < b.stop)
    : a.stop ≤ b.start ∨ a.Nests b := by
  rw [le_iff] at hle
  rcases h with h | h | h | h
  . exact Or.inl h
  . omega
  . exact Or.inr h
  . have hcontains := contains_iff.mp h.1
    have := h.2.2
    omega

theorem Nests.precedes {a b : Span} (h : a.Nests b) : a.Precedes b := by
  have hcontains := contains_iff.mp h.1
  have := h.2.2
  unfold Precedes
  omega

theorem Precedes.le {a b : Span} (h : a.Precedes b) : a.le b := by
  rw [le_iff]
  unfold Precedes at h
  omega

/-- Whether spans that are not empty lie between two offsets, in strict order. -/
structure InOrder (start stop : Nat) (spans : List Span) : Prop where
  start_le : ∀ span ∈ spans, start ≤ span.start
  lt : ∀ span ∈ spans, span.start < span.stop
  le_stop : ∀ span ∈ spans, span.stop ≤ stop
  precedes : spans.Pairwise Precedes

namespace InOrder

variable {start mid stop : Nat} {spans others : List Span}

theorem nil (start stop : Nat) : InOrder start stop [] := ⟨nofun, nofun, nofun, List.Pairwise.nil⟩

theorem singleton (scopes : ScopeStack) (h : start < stop)
    : InOrder start stop [⟨scopes, start, stop⟩] where
  start_le := by simp
  lt := by simpa using h
  le_stop := by simp
  precedes := List.pairwise_singleton _ _

theorem append (h : InOrder start mid spans) (hothers : InOrder mid stop others)
    (hstart : start ≤ mid) (hstop : mid ≤ stop) : InOrder start stop (spans ++ others) where
  start_le := by
    intro span hspan
    rcases List.mem_append.mp hspan with hspan | hspan
    . exact h.start_le span hspan
    . exact Nat.le_trans hstart (hothers.start_le span hspan)
  lt := by
    intro span hspan
    rcases List.mem_append.mp hspan with hspan | hspan
    . exact h.lt span hspan
    . exact hothers.lt span hspan
  le_stop := by
    intro span hspan
    rcases List.mem_append.mp hspan with hspan | hspan
    . exact Nat.le_trans (h.le_stop span hspan) hstop
    . exact hothers.le_stop span hspan
  precedes := by
    rw [List.pairwise_append]
    refine ⟨h.precedes, hothers.precedes, ?_⟩
    intro a ha b hb
    have := h.lt a ha
    have := h.le_stop a ha
    have := hothers.start_le b hb
    exact Or.inl (by omega)

theorem cons (scopes : ScopeStack) (h : InOrder start stop spans) (hlt : start < stop)
    (hspans : ∀ span ∈ spans, start < span.start ∨ span.stop < stop)
    : InOrder start stop (⟨scopes, start, stop⟩ :: spans) where
  start_le := List.forall_mem_cons.mpr ⟨Nat.le_refl start, h.start_le⟩
  lt := List.forall_mem_cons.mpr ⟨hlt, h.lt⟩
  le_stop := List.forall_mem_cons.mpr ⟨Nat.le_refl stop, h.le_stop⟩
  precedes := by
    rw [List.pairwise_cons]
    refine ⟨?_, h.precedes⟩
    intro span hspan
    have := h.start_le span hspan
    have := hspans span hspan
    unfold Precedes
    dsimp only
    omega

/-- Sorting spans of which a strict order is known brings them into that order. -/
theorem mergeSort_eq (h : InOrder start stop spans) (hperm : others.Perm spans)
    : others.mergeSort le = spans := by
  have hsame : (others.mergeSort le).Perm spans := (List.mergeSort_perm others le).trans hperm
  apply List.Perm.eq_of_pairwise _ (pairwise_le_mergeSort others) _ hsame
  . intro a b ha hb hab hba
    by_contra hne
    have : Std.Symm fun a b : Span => ¬ (a.le b ∧ b.le a) := ⟨fun _ _ hab h => hab h.symm⟩
    have hstrict : spans.Pairwise fun a b => ¬ (a.le b ∧ b.le a) := by
      apply h.precedes.imp
      rintro a b hab ⟨-, hba⟩
      rw [le_iff] at hba
      unfold Precedes at hab
      omega
    exact hstrict.forall (hsame.mem_iff.mp ha) hb hne ⟨hab, hba⟩
  . exact h.precedes.imp Precedes.le

end InOrder

end Span

namespace Layered

variable {text : Text} {start stop : Nat} {base : ScopeStack} {spans : List Span}

theorem pairwise_mergeSort (h : Layered text start stop base spans)
    : (spans.mergeSort Span.le).Pairwise fun a b => a.stop ≤ b.start ∨ a.Nests b := by
  have hsorted := h.perm (List.mergeSort_perm spans Span.le).symm
  apply List.Pairwise.imp_of_mem _ (hsorted.compatible.and (Span.pairwise_le_mergeSort spans))
  intro a b ha hb hab
  exact hab.1.of_le hab.2 (hsorted.fits b hb).lt

theorem pairwise_precedes (h : Layered text start stop base spans)
    : (spans.mergeSort Span.le).Pairwise Span.Precedes := by
  have hsorted := h.perm (List.mergeSort_perm spans Span.le).symm
  apply List.Pairwise.imp_of_mem _ h.pairwise_mergeSort
  intro a b ha hb hab
  rcases hab with hab | hab
  . exact Or.inl (Nat.lt_of_lt_of_le (hsorted.fits a ha).lt hab)
  . exact hab.precedes

theorem mergeSort_eq_of_perm (h : Layered text start stop base spans) {others : List Span}
    (hperm : others.Perm spans) : others.mergeSort Span.le = spans.mergeSort Span.le := by
  have hothers := (h.perm hperm.symm).pairwise_precedes
  -- a strict order arranges the members of a list in one way only
  apply List.Perm.eq_of_pairwise _ hothers h.pairwise_precedes
  . calc
      (others.mergeSort Span.le).Perm others := List.mergeSort_perm others Span.le
      _ |>.Perm spans := hperm
      _ |>.Perm (spans.mergeSort Span.le) := (List.mergeSort_perm spans Span.le).symm
  . intro a b _ _ hab hba
    unfold Span.Precedes at hab hba
    omega

end Layered

end TextScopes
