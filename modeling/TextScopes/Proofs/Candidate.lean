import TextScopes.Proofs.Grammar.Sound
import TextScopes.Proofs.Regex.Hits
import TextScopes.Proofs.Stream

/-!
This module contains what is known of the candidates in a text: each of them is a match of a pattern
of the grammar, and so are its groups.
-/

namespace TextScopes

theorem Rule.IsSound.groupsFrom {rule : Rule} (h : rule.IsSound) {phase : Phase} {regex : Regex}
    (hregex : rule.regex? phase = some regex) : regex.expr.GroupsFrom 1 := by
  unfold IsSound at h
  unfold regex? at hregex
  split at hregex
  . next hkind =>
    simp only [hkind] at h
    cases hregex
    exact h
  . next hkind =>
    simp only [hkind] at h
    cases hregex
    exact h.1
  . next hkind =>
    simp only [hkind] at h
    cases hregex
    exact h.2
  . contradiction

theorem Rule.IsSound.hit_isSound {rule : Rule} (h : rule.IsSound) {id : RuleId} {text : Text}
    {c : Candidate} (hc : c ∈ rule.candidates id text) : c.hit.IsSound text := by
  rcases (mem_candidates_iff.mp hc).2 with ⟨regex, hregex, hhit⟩
  exact Regex.isSound_of_mem_hits (h.groupsFrom hregex) hhit

namespace Grammar

variable {grammar : Grammar}

theorem IsSound.rule (h : grammar.IsSound) {id : RuleId} {rule : Rule}
    (hrule : grammar.rule? id = some rule) : rule.IsSound := by
  exact h rule (List.mem_of_getElem? hrule)

theorem IsSound.hit_isSound (h : grammar.IsSound) {text : Text} {c : Candidate}
    (hc : c ∈ grammar.scan text) : c.hit.IsSound text := by
  rcases mem_scan_iff.mp hc with ⟨-, rule, hrule, hc⟩
  exact (h.rule hrule).hit_isSound hc

end Grammar

end TextScopes
