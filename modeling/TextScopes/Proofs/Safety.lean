import TextScopes.Proofs.Grammar.Partial
import TextScopes.Proofs.Highlight
import TextScopes.Proofs.Run.Partial
import TextScopes.Proofs.Tokenizer.Partial

/-!
This module contains that a grammar that builds can be used on any text without failing: no step
from the written grammar to the runs of a text looks up a rule that is not there, takes a difference
below zero, cuts a text inside a character, or clamps between bounds in the wrong order.
-/

namespace TextScopes

def Grammar.highlight? (grammar : Grammar) (merge : Bool) (text : Text) : Option (List Run) := do
  let spans ← grammar.tokenize? text
  let runs ← flatten? text spans grammar.rootScopes
  if merge then mergeRuns? text runs else some runs

namespace GrammarSource

variable {source : GrammarSource} {grammar : Grammar}

theorem highlight?_eq (h : source.build = .ok grammar) (merge : Bool) (text : Text)
    : grammar.highlight? merge text = some (grammar.highlight merge text) := by
  unfold Grammar.highlight? Grammar.highlight
  rw [Grammar.tokenize?_eq (isIndexed_of_build h), Option.bind_eq_bind, Option.bind_some,
    flatten?_eq]
  cases merge with
  | false => rfl
  | true => exact mergeRuns?_eq (Grammar.tiles_highlight h false text) (joins_uniform _)

/-- A written grammar of fewer than `2 ^ 32` rules is built, and any text is highlighted with it,
without an operation that is undefined. All numbers of rules in the grammar and in the candidates
are numbers of its rules, and each candidate is a piece of the text behind which the text can be
cut. -/
theorem highlights_every_text (h : source.ruleCount < 2 ^ 32)
    : source.build? = .of source.build
      ∧ ∀ grammar, source.build = .ok grammar →
          grammar.IsIndexed
            ∧ ∀ text : Text,
                (∀ c ∈ grammar.scan text, c.rule < grammar.ruleCount ∧ c.start ≤ c.stop
                  ∧ ∃ rest, text.drop? c.stop = some rest)
                ∧ grammar.tokenize? text = some (grammar.tokenize text)
                ∧ ∀ merge, grammar.highlight? merge text = some (grammar.highlight merge text) := by
  refine ⟨build?_eq h, ?_⟩
  intro grammar hbuild
  have hindexed := isIndexed_of_build hbuild
  refine ⟨hindexed, ?_⟩
  intro text
  refine ⟨?_, Grammar.tokenize?_eq hindexed text, fun merge => highlight?_eq hbuild merge text⟩
  intro c hc
  rcases Grammar.isPiece_of_mem_scan hc with ⟨hle, -, hstop⟩
  refine ⟨hindexed.scanOrder _ (Grammar.mem_scan_iff.mp hc).1, hle, ?_⟩
  exact Option.isSome_iff_exists.mp (Text.isSome_drop?_iff.mpr hstop)

theorem highlights_every_text_list
    : listSource.ruleCount < 2 ^ 32 ∧ listSource.build? = .of listSource.build
      ∧ ∃ grammar, listSource.build = .ok grammar ∧ grammar.IsIndexed
        ∧ grammar.tokenize? "[[é]x".toList = some (grammar.tokenize "[[é]x".toList)
        ∧ grammar.highlight? true "[[é]x".toList
          = some (grammar.highlight true "[[é]x".toList) := by
  have hcount : listSource.ruleCount < 2 ^ 32 := by decide
  rcases exists_build_listSource with ⟨grammar, hgrammar⟩
  rcases highlights_every_text hcount with ⟨hbuild, hall⟩
  rcases hall grammar hgrammar with ⟨hindexed, htexts⟩
  rcases htexts "[[é]x".toList with ⟨-, htokenize, hhighlight⟩
  exact ⟨hcount, hbuild, grammar, hgrammar, hindexed, htokenize, hhighlight true⟩

end GrammarSource

end TextScopes
