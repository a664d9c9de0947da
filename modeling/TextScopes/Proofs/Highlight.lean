import TextScopes.Highlight
import TextScopes.Proofs.Run.Flatten
import TextScopes.Proofs.Run.Merge
import TextScopes.Proofs.Tokenizer.Spans

/-!
This module contains the theory of highlighting: for every grammar that builds, the runs make up the
text, and each byte has the scopes of the deepest span that covers it.
-/

namespace TextScopes

/-- Whether a span has more scopes than all other spans that cover a byte. -/
def Span.IsDeepest (spans : List Span) (i : Nat) (span : Span) : Prop :=
  span ∈ spans ∧ span.covers i ∧
    ∀ other ∈ spans, other.covers i → other ≠ span → other.scopes.length < span.scopes.length

/-- The last span that covers a byte is the deepest one, where spans are in order and nest. -/
theorem scopesAt_eq (base : ScopeStack) {spans : List Span} (i : Nat)
    (h : spans.Pairwise fun a b => a.stop ≤ b.start ∨ a.Nests b)
    : (∃ span, Span.IsDeepest spans i span ∧ scopesAt base spans i = span.scopes)
        ∨ ((∀ span ∈ spans, ¬ span.covers i) ∧ scopesAt base spans i = base) := by
  induction spans using List.reverseRecOn with
  | nil => exact Or.inr ⟨by simp, rfl⟩
  | append_singleton spans last ih =>
    rcases List.pairwise_append.mp h with ⟨hspans, -, hlast⟩
    rw [scopesAt_append]
    by_cases hcovers : last.covers i
    . rw [if_pos hcovers]
      refine Or.inl ⟨last, ⟨by simp, hcovers, ?_⟩, rfl⟩
      intro other hother hcovers' hne
      rcases List.mem_append.mp hother with hother | hother
      . -- an earlier span that covers the byte too has the last one inside
        rcases hlast other hother last (by simp) with hstop | hnests
        . rw [Span.covers_iff] at hcovers hcovers'
          omega
        . exact hnests.2.2
      . exact absurd (List.mem_singleton.mp hother) hne
    . rw [if_neg hcovers]
      rcases ih hspans with ⟨span, hdeepest, heq⟩ | ⟨hnone, heq⟩
      . refine Or.inl ⟨span, ⟨?_, hdeepest.2.1, ?_⟩, heq⟩
        . exact List.mem_append_left _ hdeepest.1
        . intro other hother hcovers'
          rcases List.mem_append.mp hother with hother | hother
          . exact hdeepest.2.2 other hother hcovers'
          . rw [List.mem_singleton.mp hother] at hcovers'
            contradiction
      . refine Or.inr ⟨?_, heq⟩
        intro span hspan
        rcases List.mem_append.mp hspan with hspan | hspan
        . exact hnone span hspan
        . rw [List.mem_singleton.mp hspan]
          exact hcovers

namespace Grammar

variable {source : GrammarSource} {grammar : Grammar}

theorem tiles_highlight (h : source.build = .ok grammar) (merge : Bool) (text : Text)
    : Tiles text (Uniform (scopesAt grammar.rootScopes (grammar.tokenize text))) 0 text.size
        (grammar.highlight merge text) := by
  have htiles : Tiles text (Uniform (scopesAt grammar.rootScopes (grammar.tokenize text))) 0
      text.size (flatten text (grammar.tokenize text) grammar.rootScopes) := by
    apply tiles_flatten
    . intro span hspan
      have hfits := (layered_tokenize h text).fits span hspan
      exact ⟨hfits.lt, hfits.isBoundary_start, hfits.isBoundary_stop⟩
    . apply (pairwise_tokenize h text).imp
      intro a b hab
      exact hab.imp_right And.left
  unfold highlight
  split
  . exact tiles_mergeRuns htiles (joins_uniform _)
  . exact htiles

theorem getLast?_scopesAt (h : source.build = .ok grammar) (text : Text) (i : Nat)
    : (scopesAt grammar.rootScopes (grammar.tokenize text) i).getLast?
        =
      some grammar.scopeName := by
  rcases scopesAt_eq grammar.rootScopes i (pairwise_tokenize h text) with
    ⟨span, hdeepest, heq⟩ | ⟨-, heq⟩
  . rw [heq]
    have hfits := (layered_tokenize h text).fits span hdeepest.1
    rcases hfits.isAbove.1 with ⟨above, habove⟩
    rw [← habove]
    simp [rootScopes]
  . rw [heq]
    rfl

/-- The runs of a text make up the text, none of them is empty, and each byte has the scopes of the
deepest span that covers it, or the scope of all text alone. Joining leaves no neighbours with the
same scopes and changes the scopes of no byte. -/
theorem highlight_assigns_deepest (h : source.build = .ok grammar) (text : Text)
    : (∀ merge : Bool,
        (∀ run ∈ grammar.highlight merge text,
          run.value ≠ [] ∧ run.scopes.getLast? = some grammar.scopeName)
        ∧ (grammar.highlight merge text).flatMap (·.value) = text
        ∧ ∀ i < text.size, ∃ run, runAt? (grammar.highlight merge text) i = some run ∧
            ((∃ span, Span.IsDeepest (grammar.tokenize text) i span ∧ run.scopes = span.scopes)
              ∨ ((∀ span ∈ grammar.tokenize text, ¬ span.covers i)
                ∧ run.scopes = [grammar.scopeName])))
      ∧ (grammar.highlight true text).IsChain (fun a b => a.scopes ≠ b.scopes)
      ∧ ∀ i, (runAt? (grammar.highlight true text) i).map (·.scopes)
          =
        (runAt? (grammar.highlight false text) i).map (·.scopes) := by
  refine ⟨?_, ?_, ?_⟩
  . intro merge
    have htiles := tiles_highlight h merge text
    refine ⟨?_, htiles.flatMap_value, ?_⟩
    . intro run hrun
      rcases htiles.exists_of_mem hrun with ⟨hvalue, a, b, hlt, -, huniform⟩
      refine ⟨hvalue, ?_⟩
      rw [← huniform a (Nat.le_refl a) hlt]
      exact getLast?_scopesAt h text a
    . intro i hi
      rcases htiles.exists_runAt? hi with ⟨run, hrun, a, b, ha, hb, huniform⟩
      refine ⟨run, hrun, ?_⟩
      rw [← huniform i (by omega) (by omega)]
      exact scopesAt_eq grammar.rootScopes i (pairwise_tokenize h text)
  . exact isChain_mergeRuns (tiles_highlight h false text) (joins_uniform _)
  . intro i
    rw [(tiles_highlight h true text).map_scopes_runAt?]
    rw [(tiles_highlight h false text).map_scopes_runAt?]

theorem highlight_assigns_deepest_list
    : ∃ grammar, listSource.build = .ok grammar ∧
        (grammar.highlight true "[[é]x".toList).flatMap (·.value) = "[[é]x".toList ∧
        ∀ i < 6, ∃ run, runAt? (grammar.highlight true "[[é]x".toList) i = some run ∧
          ((∃ span, Span.IsDeepest (grammar.tokenize "[[é]x".toList) i span ∧
              run.scopes = span.scopes)
            ∨ ((∀ span ∈ grammar.tokenize "[[é]x".toList, ¬ span.covers i)
              ∧ run.scopes = [grammar.scopeName])) := by
  rcases exists_build_listSource with ⟨grammar, h⟩
  exact ⟨grammar, h, ((highlight_assigns_deepest h "[[é]x".toList).1 true).2⟩

end Grammar

end TextScopes
