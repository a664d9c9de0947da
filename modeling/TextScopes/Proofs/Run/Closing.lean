import TextScopes.Run
import Mathlib.Data.List.Basic

/-!
This module contains what a step of flattening does, whatever the spans are like: it closes some of
the spans that go on, one after the other from the innermost on, and may open one. What closing one
span keeps is thus kept by every step until a span is opened, and by the end of the text.
-/

namespace TextScopes.Flattening

/-- Whether closing the innermost span keeps a property. -/
def KeptByClosing (text : Text) (holds : Flattening → Prop) : Prop :=
  ∀ {cursor stop scopes rest runs}, holds ⟨cursor, (stop, scopes) :: rest, runs⟩
    → holds ⟨max cursor stop, rest, runOf text cursor stop scopes :: runs⟩

variable {text : Text} {holds : Flattening → Prop} {cursor start : Nat} {opened : List Opened}
  {runs : List (List Run)}

namespace KeptByClosing

theorem closeUpTo (h : KeptByClosing text holds) (hstate : holds ⟨cursor, opened, runs⟩)
    (start : Nat) : holds (Flattening.closeUpTo text start cursor runs opened) := by
  induction opened generalizing cursor runs with
  | nil => exact hstate
  | cons entry rest ih =>
    unfold Flattening.closeUpTo
    split
    . exact hstate
    . exact ih (h hstate)

theorem closeAll (h : KeptByClosing text holds) (hstate : holds ⟨cursor, opened, runs⟩)
    : ∃ last, holds ⟨last, [], Flattening.closeAll text cursor runs opened⟩
        ∧ cursor ≤ last ∧ ∀ entry ∈ opened, entry.1 ≤ last := by
  induction opened generalizing cursor runs with
  | nil => exact ⟨cursor, hstate, Nat.le_refl _, nofun⟩
  | cons entry rest ih =>
    rcases ih (h hstate) with ⟨last, hlast, hcursor, hrest⟩
    refine ⟨last, hlast, by omega, ?_⟩
    intro other hother
    cases hother with
    | head => omega
    | tail _ hother => exact hrest other hother

theorem flatten {spans : List Span} {base : ScopeStack} (h : KeptByClosing text holds)
    (hle : ∀ {state}, holds state → state.cursor ≤ text.size)
    (hstate : let state := spans.foldl (step text (text.size, base)) ⟨0, [], []⟩
      holds ⟨state.cursor, state.opened ++ [(text.size, base)], state.runs⟩)
    : ∃ runs, holds ⟨text.size, [], runs⟩ ∧ runs.reverse.flatten = flatten text spans base := by
  rcases h.closeAll hstate with ⟨last, hlast, -, hopened⟩
  have hend : last = text.size :=
    Nat.le_antisymm (hle hlast) (hopened (text.size, base) (by simp))
  subst hend
  exact ⟨_, hlast, rfl⟩

end KeptByClosing

theorem cursor_closeUpTo_le (h : cursor ≤ start)
    : (closeUpTo text start cursor runs opened).cursor ≤ start := by
  induction opened generalizing cursor runs with
  | nil => exact h
  | cons entry rest ih =>
    unfold closeUpTo
    split
    . exact h
    . exact ih (by omega)

theorem opened_closeUpTo_suffix (text : Text) (start cursor : Nat) (runs : List (List Run))
    (opened : List Opened) : (closeUpTo text start cursor runs opened).opened <:+ opened := by
  induction opened generalizing cursor runs with
  | nil => exact List.suffix_refl _
  | cons entry rest ih =>
    unfold closeUpTo
    split
    . exact List.suffix_refl _
    . exact (ih _ _).trans (List.suffix_cons entry rest)

theorem lt_of_mem_head?_closeUpTo
    : ∀ entry ∈ (closeUpTo text start cursor runs opened).opened.head?, start < entry.1 := by
  induction opened generalizing cursor runs with
  | nil => exact nofun
  | cons entry rest ih =>
    unfold closeUpTo
    split
    . next hlt => simpa using hlt
    . exact ih

end TextScopes.Flattening
