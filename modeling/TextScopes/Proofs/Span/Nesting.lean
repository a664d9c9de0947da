import TextScopes.Tokenizer
import TextScopes.Proofs.Text.Boundary

/-!
This module contains the theory of nesting. A span nests in another one if it lies inside and has
the scopes of the other one below scopes of its own. A layer is a list of spans between two offsets,
all of them on top of one stack, of which any two nest or do not overlap. Layers are put together
from layers side by side and by wrapping a span around a layer.
-/

namespace TextScopes

/-- Whether a stack has another one below scopes of its own. -/
def ScopeStack.IsAbove (stack base : ScopeStack) : Prop :=
  base <:+ stack ∧ base.length < stack.length

namespace ScopeStack.IsAbove

theorem cons (scope : String) (base : ScopeStack) : IsAbove (scope :: base) base := by
  exact ⟨List.suffix_cons scope base, by simp⟩

theorem of_suffix {stack base below : ScopeStack} (h : stack.IsAbove base) (hbelow : below <:+ base)
    : stack.IsAbove below := by
  exact ⟨hbelow.trans h.1, Nat.lt_of_le_of_lt hbelow.length_le h.2⟩

end ScopeStack.IsAbove

namespace Span

/-- Whether the second span lies inside the first one and has its scopes below scopes of its own. -/
def Nests (outer inner : Span) : Prop := outer.contains inner ∧ inner.scopes.IsAbove outer.scopes

def Overlaps (a b : Span) : Prop := a.start < b.stop ∧ b.start < a.stop

/-- Whether two spans do not overlap or one of them nests in the other. -/
def Compatible (a b : Span) : Prop :=
  a.stop ≤ b.start ∨ b.stop ≤ a.start ∨ a.Nests b ∨ b.Nests a

theorem contains_iff {a b : Span} : a.contains b ↔ a.start ≤ b.start ∧ b.stop ≤ a.stop := by
  simp [contains]

theorem Compatible.symm {a b : Span} (h : Compatible a b) : Compatible b a := by
  unfold Compatible at *
  rcases h with h | h | h | h
  . exact Or.inr (Or.inl h)
  . exact Or.inl h
  . exact Or.inr (Or.inr (Or.inr h))
  . exact Or.inr (Or.inr (Or.inl h))

/-- Whether a span is not empty, lies between two offsets and on boundaries of the text, and has a
given stack below scopes of its own. -/
structure Fits (text : Text) (start stop : Nat) (base : ScopeStack) (span : Span) : Prop where
  start_le : start ≤ span.start
  lt : span.start < span.stop
  le_stop : span.stop ≤ stop
  isBoundary_start : text.IsBoundary span.start
  isBoundary_stop : text.IsBoundary span.stop
  isAbove : span.scopes.IsAbove base

end Span

structure Layered (text : Text) (start stop : Nat) (base : ScopeStack) (spans : List Span)
    : Prop where
  fits : ∀ span ∈ spans, span.Fits text start stop base
  compatible : spans.Pairwise Span.Compatible

namespace Layered

variable {text : Text} {start mid stop : Nat} {base : ScopeStack} {spans others : List Span}

theorem nil : Layered text start stop base [] := by
  exact ⟨by simp, List.Pairwise.nil⟩

theorem mono {start' stop' : Nat} {below : ScopeStack} (h : Layered text start stop base spans)
    (hstart : start' ≤ start) (hstop : stop ≤ stop') (hbelow : below <:+ base)
    : Layered text start' stop' below spans := by
  refine ⟨?_, h.compatible⟩
  intro span hspan
  have hfits := h.fits span hspan
  exact {
    start_le := Nat.le_trans hstart hfits.start_le
    lt := hfits.lt
    le_stop := Nat.le_trans hfits.le_stop hstop
    isBoundary_start := hfits.isBoundary_start
    isBoundary_stop := hfits.isBoundary_stop
    isAbove := hfits.isAbove.of_suffix hbelow
  }

theorem perm (h : Layered text start stop base spans) (hperm : spans.Perm others)
    : Layered text start stop base others := by
  refine ⟨?_, h.compatible.perm hperm Span.Compatible.symm⟩
  intro span hspan
  exact h.fits span (hperm.mem_iff.mpr hspan)

theorem append (h : Layered text start mid base spans) (hothers : Layered text mid stop base others)
    (hstart : start ≤ mid) (hstop : mid ≤ stop)
    : Layered text start stop base (spans ++ others) := by
  have hleft := h.mono (Nat.le_refl start) hstop (List.suffix_refl base)
  have hright := hothers.mono hstart (Nat.le_refl stop) (List.suffix_refl base)
  refine ⟨?_, ?_⟩
  . intro span hspan
    rcases List.mem_append.mp hspan with hspan | hspan
    . exact hleft.fits span hspan
    . exact hright.fits span hspan
  . rw [List.pairwise_append]
    refine ⟨h.compatible, hothers.compatible, ?_⟩
    intro a ha b hb
    have := (h.fits a ha).le_stop
    have := (hothers.fits b hb).start_le
    exact Or.inl (by omega)

theorem wrap {scope : String} (h : Layered text start stop (scope :: base) spans)
    (hstart : text.IsBoundary start) (hstop : text.IsBoundary stop)
    : Layered text start stop base (spans ++ spanOf (scope :: base) start stop) := by
  have hinside := h.mono (Nat.le_refl start) (Nat.le_refl stop) (List.suffix_cons scope base)
  unfold spanOf
  split
  . next hlt =>
    refine ⟨?_, ?_⟩
    . intro span hspan
      rcases List.mem_append.mp hspan with hspan | hspan
      . exact hinside.fits span hspan
      . rw [List.mem_singleton] at hspan
        rw [hspan]
        exact ⟨Nat.le_refl _, hlt, Nat.le_refl _, hstart, hstop, ScopeStack.IsAbove.cons scope base⟩
    . rw [List.pairwise_append]
      refine ⟨h.compatible, List.pairwise_singleton _ _, ?_⟩
      intro a ha b hb
      rw [List.mem_singleton] at hb
      rw [hb]
      have hfits := h.fits a ha
      exact Or.inr (Or.inr (Or.inr
        ⟨Span.contains_iff.mpr ⟨hfits.start_le, hfits.le_stop⟩, hfits.isAbove⟩))
  . rw [List.append_nil]
    exact hinside

theorem named {name : Option String} (h : Layered text start stop (pushScope name base) spans)
    (hstart : text.IsBoundary start) (hstop : text.IsBoundary stop)
    : Layered text start stop base
        (spans ++ if name.isSome then spanOf (pushScope name base) start stop else []) := by
  cases name with
  | none => simpa [pushScope] using h
  | some name => exact h.wrap hstart hstop

end Layered

end TextScopes
