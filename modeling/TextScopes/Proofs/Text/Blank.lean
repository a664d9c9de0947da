import Mathlib.Data.List.DropRight
import TextScopes.Text.Blank

/-!
This module contains what trimming does: it takes away blank characters at both ends and nothing
else, and leaves a text that neither begins nor ends with one.
-/

namespace TextScopes

theorem trimBlanks_eq_rdropWhile (text : List Char)
    : trimBlanks text = (text.dropWhile isBlank).rdropWhile isBlank := by
  rfl

theorem isEmpty_trimBlanks_iff {text : List Char}
    : (trimBlanks text).isEmpty ↔ ∀ c ∈ text, isBlank c := by
  rw [List.isEmpty_iff, trimBlanks_eq_rdropWhile, List.rdropWhile_eq_nil_iff]
  constructor
  . intro h
    rw [← List.dropWhile_eq_nil_iff]
    by_contra hne
    have hhead := List.head_dropWhile_not isBlank hne
    rw [h _ (List.head_mem hne)] at hhead
    contradiction
  . intro h c hc
    exact h c ((List.dropWhile_sublist _).subset hc)

theorem exists_eq_append_trimBlanks (text : List Char)
    : ∃ before behind, text = before ++ (trimBlanks text ++ behind)
        ∧ (∀ c ∈ before, isBlank c) ∧ ∀ c ∈ behind, isBlank c := by
  refine ⟨text.takeWhile isBlank, (text.dropWhile isBlank).rtakeWhile isBlank, ?_, ?_, ?_⟩
  . rw [trimBlanks_eq_rdropWhile, List.rdropWhile_append_rtakeWhile,
      List.takeWhile_append_dropWhile]
  . intro c hc
    exact List.mem_takeWhile_imp hc
  . intro c hc
    exact List.mem_rtakeWhile_imp hc

theorem trimBlanks_eq {before text behind : List Char} (hbefore : ∀ c ∈ before, isBlank c)
    (hbehind : ∀ c ∈ behind, isBlank c) (hhead : ∀ c, text.head? = some c → ¬ isBlank c)
    (hlast : ∀ c, text.getLast? = some c → ¬ isBlank c)
    : trimBlanks (before ++ (text ++ behind)) = text := by
  rw [trimBlanks_eq_rdropWhile, List.dropWhile_append_of_pos hbefore]
  cases text with
  | nil =>
    rw [List.nil_append, List.dropWhile_eq_nil_iff.mpr hbehind]
    rfl
  | cons first rest =>
    rw [List.cons_append, List.dropWhile_cons_of_neg (hhead first rfl), ← List.cons_append]
    unfold List.rdropWhile
    have hbehind : ∀ c ∈ behind.reverse, isBlank c := by simpa using hbehind
    rw [List.reverse_append, List.dropWhile_append_of_pos hbehind]
    have hself := List.rdropWhile_eq_self_iff.mpr
      fun hne => hlast _ (List.getLast?_eq_some_getLast hne)
    exact hself

end TextScopes
