import Mathlib.Data.List.TakeWhile
import TextScopes.Text.Basic

/-!
This module contains what the first line of a text is, and that it depends on nothing behind the
first line feed.
-/

namespace TextScopes

/-- Whether a text has a first line, and which. It ends in front of a line feed, or of a carriage
return right before the line feed, or else with the text. -/
inductive HasFirstLine : (text line : Text) → Prop
  | lineFeed {line rest : Text} (hline : '\n' ∉ line) (hlast : line.getLast? ≠ some '\r')
    : HasFirstLine (line ++ '\n' :: rest) line
  | carriageReturn {line rest : Text} (hline : '\n' ∉ line)
    : HasFirstLine (line ++ '\r' :: '\n' :: rest) line
  | textEnd {line : Text} (hline : '\n' ∉ line) (hne : line ≠ []) : HasFirstLine line line

theorem takeWhile_of_lineFeed {line rest : Text} (h : '\n' ∉ line)
    : (line ++ '\n' :: rest).takeWhile (· != '\n') = line := by
  have hline : ∀ c ∈ line, c != '\n' := fun c hc => bne_iff_ne.mpr fun heq => h (heq ▸ hc)
  rw [List.takeWhile_append_of_pos hline]
  simp

theorem firstLine?_append {line rest : Text} (h : '\n' ∉ line)
    : (line ++ '\n' :: rest).firstLine?
      = some (if line.getLast? = some '\r' then line.dropLast else line) := by
  unfold Text.firstLine?
  split
  . next heq => simp at heq
  . rw [takeWhile_of_lineFeed h]
    simp only [List.length_append, List.length_cons, Nat.lt_add_of_pos_right, Nat.succ_pos,
      decide_true, Bool.true_and, beq_iff_eq]
    split
    . rfl
    . rfl

theorem firstLine?_eq_some_iff_of_mem {text line : Text} (h : '\n' ∈ text)
    : text.firstLine? = some line ↔ HasFirstLine text line := by
  rcases List.eq_append_cons_of_mem h with ⟨first, rest, rfl, hfirst⟩
  rw [firstLine?_append hfirst, Option.some.injEq]
  constructor
  . rintro rfl
    split
    . next hlast =>
      rcases List.getLast?_eq_some_iff.mp hlast with ⟨line, rfl⟩
      rw [List.dropLast_concat, List.append_assoc]
      exact .carriageReturn fun h => hfirst (List.mem_append_left _ h)
    . next hlast => exact .lineFeed hfirst hlast
  . generalize htext : first ++ '\n' :: rest = text
    -- what stands in front of the first line feed is determined by the text
    have hsplit {line behind : Text} (hline : '\n' ∉ line)
        (heq : first ++ '\n' :: rest = line ++ '\n' :: behind) : first = line := by
      have hsame : (first ++ '\n' :: rest).takeWhile (· != '\n') = first :=
        takeWhile_of_lineFeed hfirst
      rw [← hsame, heq, takeWhile_of_lineFeed hline]
    intro h
    cases h with
    | lineFeed hline hlast =>
      cases hsplit hline htext
      exact if_neg hlast
    | @carriageReturn line behind hline =>
      have htext : first ++ '\n' :: rest = (line ++ ['\r']) ++ '\n' :: behind := by
        simpa using htext
      cases hsplit (by simpa using hline) htext
      simp
    | textEnd hline =>
      rw [← htext] at hline
      simp at hline

theorem firstLine?_eq_some_iff_of_not_mem {text line : Text} (h : '\n' ∉ text)
    : text.firstLine? = some line ↔ HasFirstLine text line := by
  have hne (line rest : Text) : text ≠ line ++ '\n' :: rest := by
    rintro rfl
    simp at h
  have hall : text.takeWhile (· != '\n') = text := by
    rw [List.takeWhile_eq_self_iff]
    exact fun c hc => bne_iff_ne.mpr fun heq => h (heq ▸ hc)
  constructor
  . unfold Text.firstLine?
    split
    . nofun
    . next hnil =>
      rw [hall]
      simp only [Nat.lt_irrefl, decide_false, Bool.false_and, Bool.false_eq_true, if_false]
      rintro ⟨⟩
      exact .textEnd h hnil
  . intro hline
    cases hline with
    | lineFeed => exact absurd rfl (hne _ _)
    | @carriageReturn line behind =>
      rw [List.append_cons] at hne
      exact absurd rfl (hne _ _)
    | textEnd _ hnil =>
      unfold Text.firstLine?
      split
      . contradiction
      . rw [hall]
        simp

theorem firstLine?_eq_some_iff {text line : Text}
    : text.firstLine? = some line ↔ HasFirstLine text line := by
  by_cases h : '\n' ∈ text
  . exact firstLine?_eq_some_iff_of_mem h
  . exact firstLine?_eq_some_iff_of_not_mem h

end TextScopes
