import TextScopes.Proofs.Candidate
import TextScopes.Proofs.Tokenizer.Nesting

/-!
This module contains what holds of the spans of a text, for every grammar that builds: none is
empty, they lie on boundaries of the text, and of two that overlap the earlier one has the later one
inside and its scopes below those of the later one.
-/

namespace TextScopes

def listSource : GrammarSource where
  scopeName := "source.list"
  patterns := [
    { name := some "meta.list", beginPattern := some "\\[", endPattern := some "\\]",
      beginCaptures := some (.ofList [("0", { name := some "punctuation.open" })]),
      patterns := some [{ includeTarget := some "$self" }] },
    { name := some "constant.x", matchPattern := some "x" }]

theorem exists_build_listSource : ∃ grammar, listSource.build = .ok grammar := by
  exact ⟨_, rfl⟩

namespace Grammar

variable {source : GrammarSource} {grammar : Grammar}

theorem layered_emitted (h : source.build = .ok grammar) (text : Text)
    : Layered text 0 text.size grammar.rootScopes
        (grammar.passSpans text.size (grammar.scan text)) := by
  have hgrammar := source.isSound_of_build h
  apply layered_passSpans
  intro c hc
  exact hgrammar.hit_isSound hc

theorem layered_tokenize (h : source.build = .ok grammar) (text : Text)
    : Layered text 0 text.size grammar.rootScopes (grammar.tokenize text) := by
  exact (layered_emitted h text).perm (List.mergeSort_perm _ _).symm

theorem pairwise_tokenize (h : source.build = .ok grammar) (text : Text)
    : (grammar.tokenize text).Pairwise fun a b => a.stop ≤ b.start ∨ a.Nests b := by
  exact (layered_emitted h text).pairwise_mergeSort

theorem pairwise_precedes_tokenize (h : source.build = .ok grammar) (text : Text)
    : (grammar.tokenize text).Pairwise Span.Precedes := by
  exact (layered_emitted h text).pairwise_precedes

/-- The spans of a text are not empty and lie on boundaries, and each one ends before the start of a
later one or has it inside. -/
theorem tokenize_nested (h : source.build = .ok grammar) (text : Text)
    : (∀ span ∈ grammar.tokenize text,
        span.start < span.stop ∧ span.stop ≤ text.size ∧ text.IsBoundary span.start ∧
          text.IsBoundary span.stop)
      ∧ (grammar.tokenize text).Pairwise fun a b => a.stop ≤ b.start ∨ a.contains b := by
  refine ⟨?_, ?_⟩
  . intro span hspan
    have hfits := (layered_tokenize h text).fits span hspan
    exact ⟨hfits.lt, hfits.le_stop, hfits.isBoundary_start, hfits.isBoundary_stop⟩
  . apply (pairwise_tokenize h text).imp
    intro a b hab
    rcases hab with hab | hab
    . exact Or.inl hab
    . exact Or.inr hab.1

theorem tokenize_nested_list
    : ∃ grammar, listSource.build = .ok grammar ∧
        (grammar.tokenize "[[é]x".toList).Pairwise fun a b => a.stop ≤ b.start ∨ a.contains b := by
  rcases exists_build_listSource with ⟨grammar, h⟩
  exact ⟨grammar, h, (tokenize_nested h "[[é]x".toList).2⟩

/-- Of two spans of a text that overlap the later one has the scopes of the earlier one below scopes
of its own. So their order is strict, and there is no other order to which the spans sort. -/
theorem tokenize_carries_scopes (h : source.build = .ok grammar) (text : Text)
    : ((grammar.tokenize text).Pairwise fun a b =>
        a.Overlaps b → a.scopes <:+ b.scopes ∧ a.scopes ≠ b.scopes)
      ∧ ((grammar.tokenize text).map fun span =>
          (span.start, span.stop, span.scopes.length)).Nodup
      ∧ (grammar.tokenize text).Pairwise Span.Precedes
      ∧ ∀ emitted : List Span, emitted.Perm (grammar.passSpans text.size (grammar.scan text)) →
          emitted.mergeSort Span.le = grammar.tokenize text := by
  refine ⟨?_, ?_, pairwise_precedes_tokenize h text, ?_⟩
  . apply (pairwise_tokenize h text).imp
    intro a b hab hoverlaps
    rcases hab with hab | hab
    . have := hoverlaps.2
      omega
    . refine ⟨hab.2.1, ?_⟩
      intro heq
      have hlt := hab.2.2
      rw [heq] at hlt
      exact Nat.lt_irrefl _ hlt
  . rw [List.Nodup, List.pairwise_map]
    apply (pairwise_precedes_tokenize h text).imp
    intro a b hab heq
    injection heq with hstart heq
    injection heq with hstop hlength
    unfold Span.Precedes at hab
    omega
  . intro emitted hperm
    exact (layered_emitted h text).mergeSort_eq_of_perm hperm

theorem tokenize_carries_scopes_list
    : ∃ grammar, listSource.build = .ok grammar ∧
        (grammar.tokenize "[[x]x".toList).Pairwise fun a b =>
          a.Overlaps b → a.scopes <:+ b.scopes ∧ a.scopes ≠ b.scopes := by
  rcases exists_build_listSource with ⟨grammar, h⟩
  exact ⟨grammar, h, (tokenize_carries_scopes h "[[x]x".toList).1⟩

end Grammar

end TextScopes
