import Mathlib.Data.List.Chain
import TextScopes.Proofs.Run.Tiles

/-!
This module contains the theory of joining the runs of a tiling: the result tiles the same stretch
of the text, and no two neighbours in it have the same scopes.
-/

namespace TextScopes

def Run.Differs (a b : Run) : Prop := a.scopes ≠ b.scopes

theorem joined?_of_slice {text : Text} {lastStart mid stop : Nat} {last next : Run}
    (hlast : text.slice? lastStart mid = some last.value)
    (hnext : text.slice? mid stop = some next.value)
    : joined? text lastStart stop last next
        =
      if last.scopes = next.scopes then some (last.value ++ next.value) else none := by
  unfold joined?
  rw [Text.slice?_append hlast hnext]
  simp [Option.filter]

namespace Merging

/-- Whether the runs so far tile the text up to the offset, the latest one from where it is said to
start, and no two neighbours have the same scopes. -/
inductive IsMerged (text : Text) (holds : Nat → Nat → ScopeStack → Prop) : Merging → Prop
  | empty : IsMerged text holds ⟨[], 0, 0⟩
  | latest {last : Run} {before : List Run} {lastStart offset : Nat}
    (hbefore : Tiles text holds 0 lastStart before.reverse)
    (hlast : Tiles text holds lastStart offset [last])
    (hdiffers : (last :: before).IsChain Run.Differs)
    : IsMerged text holds ⟨last :: before, lastStart, offset⟩

variable {text : Text} {holds : Nat → Nat → ScopeStack → Prop} {state : Merging} {run : Run}
  {runs : List Run} {stop : Nat}

namespace IsMerged

theorem tiles (h : IsMerged text holds state)
    : Tiles text holds 0 state.offset state.merged.reverse := by
  cases h with
  | empty => exact Tiles.nil 0
  | latest hbefore hlast hdiffers =>
    rw [List.reverse_cons]
    exact hbefore.append hlast

theorem isChain (h : IsMerged text holds state) : state.merged.reverse.IsChain Run.Differs := by
  rw [List.isChain_reverse]
  cases h with
  | empty => exact List.isChain_nil
  | latest hbefore hlast hdiffers => exact hdiffers.imp fun a b hab => hab.symm

theorem step (h : IsMerged text holds state) (hrun : Tiles text holds state.offset stop [run])
    (hjoin : Joins holds)
    : IsMerged text holds (Merging.step text state run)
        ∧ (Merging.step text state run).offset = stop := by
  rcases hrun.of_singleton with ⟨hlt, hvalue, hscopes⟩
  rcases Text.size_of_slice? hvalue with rfl
  cases h with
  | empty => exact ⟨latest (Tiles.nil 0) hrun (List.isChain_singleton run), rfl⟩
  | @latest last before lastStart offset hbefore hlast hdiffers =>
    rcases hlast.of_singleton with ⟨hlt', hvalue', hscopes'⟩
    unfold Merging.step
    dsimp only at *
    -- the two pieces touch, so nothing but their scopes decides
    rw [joined?_of_slice hvalue' hvalue]
    by_cases heq : last.scopes = run.scopes
    . rw [if_pos heq]
      refine ⟨latest hbefore ?_ ?_, rfl⟩
      . rw [← heq] at hscopes
        apply Tiles.cons (by omega) (Text.slice?_append hvalue' hvalue) _ (Tiles.nil _)
        exact hjoin _ _ _ _ hscopes' hscopes
      . rw [List.isChain_cons] at *
        exact hdiffers
    . rw [if_neg heq]
      refine ⟨latest ?_ hrun ?_, rfl⟩
      . rw [List.reverse_cons]
        exact hbefore.append hlast
      . exact List.IsChain.cons_cons (Ne.symm heq) hdiffers

theorem foldl (h : IsMerged text holds state) (hruns : Tiles text holds state.offset stop runs)
    (hjoin : Joins holds)
    : IsMerged text holds (runs.foldl (Merging.step text) state)
        ∧ (runs.foldl (Merging.step text) state).offset = stop := by
  induction runs generalizing state with
  | nil =>
    cases hruns
    exact ⟨h, rfl⟩
  | cons run runs ih =>
    cases hruns with
    | cons hlt hvalue hscopes hruns =>
      have hrun := Tiles.cons hlt hvalue hscopes (Tiles.nil _)
      rcases h.step hrun hjoin with ⟨hnext, hoffset⟩
      rw [← hoffset] at hruns
      exact ih hnext hruns

end IsMerged

end Merging

variable {text : Text} {holds : Nat → Nat → ScopeStack → Prop} {runs : List Run} {stop : Nat}

theorem tiles_mergeRuns (h : Tiles text holds 0 stop runs)
    (hjoin : Joins holds)
    : Tiles text holds 0 stop (mergeRuns text runs) := by
  rcases Merging.IsMerged.empty.foldl h hjoin with ⟨hmerged, hoffset⟩
  rw [← hoffset]
  exact hmerged.tiles

theorem isChain_mergeRuns (h : Tiles text holds 0 stop runs)
    (hjoin : Joins holds)
    : (mergeRuns text runs).IsChain Run.Differs := by
  exact (Merging.IsMerged.empty.foldl h hjoin).1.isChain

example : mergeRuns "aéb".toList [⟨["r"], "a".toList⟩, ⟨["r"], "é".toList⟩, ⟨["x"], "b".toList⟩]
    = [⟨["r"], "aé".toList⟩, ⟨["x"], "b".toList⟩] := by
  decide

end TextScopes
