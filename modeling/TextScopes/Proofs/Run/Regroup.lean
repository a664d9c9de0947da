import Mathlib.Data.List.Forall2
import TextScopes.Proofs.Run.Merge

/-!
This module contains merging of runs that need not be pieces of the text. Whatever the runs are,
merging puts neighbours with the same scopes together and does nothing else: what it makes of two
runs is sliced from the text, but always is what the two say. Where it refuses two neighbours it
would refuse them again, so that merging twice is merging once.
-/

namespace TextScopes

/-- Whether a run is a block of runs put together that all have its scopes. -/
structure Run.IsBlock (run : Run) (block : List Run) : Prop where
  ne_nil : block ≠ []
  scopes : ∀ part ∈ block, part.scopes = run.scopes
  value : run.value = block.flatMap (·.value)

/-- Whether runs are other runs cut into blocks of neighbours, each block put together. -/
def Regroups (runs merged : List Run) : Prop :=
  ∃ blocks : List (List Run), blocks.flatten = runs ∧ List.Forall₂ Run.IsBlock merged blocks

/-- Whether two runs have the same scopes and are, one behind the other, a piece of the text that
begins at an offset. -/
def Run.Continues (text : Text) (start : Nat) (last next : Run) : Prop :=
  last.scopes = next.scopes ∧
    text.slice? start (start + last.value.size + next.value.size) = some (last.value ++ next.value)

variable {text : Text} {start : Nat} {last next run : Run} {before runs merged block : List Run}

namespace Run

theorem isBlock_singleton (run : Run) : run.IsBlock [run] :=
  ⟨List.cons_ne_nil _ _, by simp, by simp⟩

theorem IsBlock.append (h : last.IsBlock block) (hscopes : last.scopes = run.scopes)
    : IsBlock ⟨last.scopes, last.value ++ run.value⟩ (block ++ [run]) where
  ne_nil := by simp
  scopes := by
    intro part hpart
    rcases List.mem_append.mp hpart with hpart | hpart
    . exact h.scopes part hpart
    . rw [List.mem_singleton.mp hpart, hscopes]
  value := by simp [h.value]

theorem Continues.of_append {scopes : ScopeStack} {value more : Text}
    (h : Continues text start last ⟨scopes, value ++ more⟩)
    : Continues text start last ⟨scopes, value⟩ := by
  rcases h with ⟨hscopes, hslice⟩
  rcases Text.slice?_eq_some_iff.mp hslice with ⟨front, after, htext, hfront, -⟩
  refine ⟨hscopes, Text.slice?_eq_some_iff.mpr ⟨front, more ++ after, ?_, hfront, ?_⟩⟩
  . rw [← htext]
    simp
  . rw [Text.size_append, Nat.add_assoc]

end Run

theorem Regroups.flatMap_value (h : Regroups runs merged)
    : merged.flatMap (·.value) = runs.flatMap (·.value) := by
  rcases h with ⟨blocks, rfl, hblocks⟩
  induction hblocks with
  | nil => rfl
  | cons hblock _ ih =>
    rw [List.flatMap_cons, List.flatten_cons, List.flatMap_append, ih, hblock.value]

theorem joined?_eq_some_iff {piece : Text}
    : joined? text start (start + last.value.size + next.value.size) last next = some piece
        ↔ last.Continues text start next ∧ piece = last.value ++ next.value := by
  unfold joined? Run.Continues
  constructor
  . intro h
    split at h
    . next hscopes =>
      rcases Option.filter_eq_some_iff.mp h with ⟨hslice, hvalues⟩
      rw [Bool.and_eq_true, List.isPrefixOf_iff_prefix, List.isSuffixOf_iff_suffix] at hvalues
      rcases hvalues with ⟨⟨tail, rfl⟩, front, hfront⟩
      have hsize := Text.size_of_slice? hslice
      rw [Text.size_append] at hsize
      have heq : Text.size front = last.value.size := by
        have := congrArg Text.size hfront
        rw [Text.size_append, Text.size_append] at this
        omega
      rcases Text.append_inj_of_size hfront heq with ⟨-, rfl⟩
      exact ⟨⟨hscopes, hslice⟩, rfl⟩
    . contradiction
  . rintro ⟨⟨hscopes, hslice⟩, rfl⟩
    rw [if_pos hscopes, hslice]
    simp [Option.filter]

namespace Merging

theorem step_of_continues (h : last.Continues text start run)
    : step text ⟨last :: before, start, start + last.value.size⟩ run
        =
      ⟨⟨last.scopes, last.value ++ run.value⟩ :: before, start,
        start + last.value.size + run.value.size⟩ := by
  unfold step
  dsimp only
  rw [joined?_eq_some_iff.mpr ⟨h, rfl⟩]

theorem step_of_not_continues (h : ¬ last.Continues text start run)
    : step text ⟨last :: before, start, start + last.value.size⟩ run
        =
      ⟨run :: last :: before, start + last.value.size,
        start + last.value.size + run.value.size⟩ := by
  have hnone : joined? text start (start + last.value.size + run.value.size) last run = none := by
    rw [Option.eq_none_iff_forall_not_mem]
    intro piece hpiece
    exact h (joined?_eq_some_iff.mp hpiece).1
  unfold step
  dsimp only
  rw [hnone]

/-- Whether no run continues the one before it at its place, so that merging would keep them all. -/
inductive IsSettled (text : Text) : Merging → Prop
  | empty : IsSettled text ⟨[], 0, 0⟩
  | first (run : Run) : IsSettled text ⟨[run], 0, 0 + run.value.size⟩
  | next {last : Run} {before : List Run} {start : Nat} (run : Run)
    (h : IsSettled text ⟨last :: before, start, start + last.value.size⟩)
    (hstop : ¬ last.Continues text start run)
    : IsSettled text ⟨run :: last :: before, start + last.value.size,
        start + last.value.size + run.value.size⟩

namespace IsSettled

variable {state : Merging} {offset : Nat}

theorem shape (h : IsSettled text state)
    : state = ⟨[], 0, 0⟩ ∨ ∃ last before start,
        state = ⟨last :: before, start, start + last.value.size⟩ := by
  cases h with
  | empty => exact Or.inl rfl
  | first run => exact Or.inr ⟨run, [], 0, rfl⟩
  | next run _ _ => exact Or.inr ⟨run, _, _, rfl⟩

theorem lengthen (h : IsSettled text ⟨last :: before, start, offset⟩) (more : Text)
    : IsSettled text ⟨⟨last.scopes, last.value ++ more⟩ :: before, start,
        start + Text.size (last.value ++ more)⟩ := by
  cases h with
  | first => exact first _
  | next _ h hstop => exact next _ h fun hcontinues => hstop hcontinues.of_append

theorem step (h : IsSettled text state) (run : Run)
    : IsSettled text (Merging.step text state run) := by
  rcases h.shape with rfl | ⟨last, before, start, rfl⟩
  . exact first run
  . by_cases hcontinues : last.Continues text start run
    . rw [step_of_continues hcontinues, Nat.add_assoc, ← Text.size_append]
      exact h.lengthen run.value
    . rw [step_of_not_continues hcontinues]
      exact next run h hcontinues

theorem foldl (text : Text) (runs : List Run)
    : IsSettled text (runs.foldl (Merging.step text) ⟨[], 0, 0⟩) := by
  induction runs using List.reverseRecOn with
  | nil => exact empty
  | append_singleton runs run ih =>
    rw [List.foldl_concat]
    exact ih.step run

theorem foldl_merged (h : IsSettled text state)
    : state.merged.reverse.foldl (Merging.step text) ⟨[], 0, 0⟩ = state := by
  induction h with
  | empty => rfl
  | first run => rfl
  | next run _ hstop ih =>
    rw [List.reverse_cons, List.foldl_concat, ih, step_of_not_continues hstop]

theorem start_eq (h : IsSettled text ⟨last :: before, start, offset⟩)
    : start = Text.size (before.reverse.flatMap (·.value)) := by
  generalize hstate : (⟨last :: before, start, offset⟩ : Merging) = state at h
  induction h generalizing last before start offset with
  | empty => cases hstate
  | first run =>
    cases hstate
    rfl
  | next run _ _ ih =>
    cases hstate
    rw [List.reverse_cons, List.flatMap_append, Text.size_append, ← ih rfl]
    simp

theorem isChain (h : IsSettled text state)
    (htext : state.merged.reverse.flatMap (·.value) <+: text)
    : state.merged.IsChain Run.Differs := by
  induction h with
  | empty => exact List.isChain_nil
  | first run => exact List.isChain_singleton run
  | @next last before start run h hstop ih =>
    dsimp only at htext ih ⊢
    rw [List.reverse_cons, List.flatMap_append] at htext
    refine List.IsChain.cons_cons ?_ (ih ((List.prefix_append _ _).trans htext))
    intro hscopes
    rcases htext with ⟨after, htext⟩
    refine hstop ⟨hscopes.symm, Text.slice?_eq_some_iff.mpr ⟨_, after, ?_, h.start_eq.symm, ?_⟩⟩
    . rw [← htext]
      simp
    . rw [Text.size_append, Nat.add_assoc]

end IsSettled

theorem exists_blocks (text : Text) (runs : List Run)
    : ∃ blocks : List (List Run), blocks.reverse.flatten = runs
        ∧ List.Forall₂ Run.IsBlock (runs.foldl (step text) ⟨[], 0, 0⟩).merged blocks := by
  induction runs using List.reverseRecOn with
  | nil => exact ⟨[], rfl, .nil⟩
  | append_singleton runs run ih =>
    rcases ih with ⟨blocks, hruns, hblocks⟩
    rw [List.foldl_concat]
    rcases (IsSettled.foldl text runs).shape with hstate | ⟨last, before, start, hstate⟩
    . rw [hstate] at hblocks ⊢
      cases hblocks
      exact ⟨[[run]], by simpa using hruns, .cons run.isBlock_singleton .nil⟩
    . rw [hstate] at hblocks ⊢
      by_cases hcontinues : last.Continues text start run
      . rw [step_of_continues hcontinues]
        cases hblocks with
        | @cons _ block _ blocks hblock hblocks =>
          exact ⟨(block ++ [run]) :: blocks, by simp [← hruns],
            .cons (hblock.append hcontinues.1) hblocks⟩
      . rw [step_of_not_continues hcontinues]
        exact ⟨[run] :: blocks, by simp [← hruns], .cons run.isBlock_singleton hblocks⟩

end Merging

theorem regroups_mergeRuns (text : Text) (runs : List Run)
    : Regroups runs (mergeRuns text runs) := by
  rcases Merging.exists_blocks text runs with ⟨blocks, hruns, hblocks⟩
  exact ⟨blocks.reverse, hruns, List.rel_reverse hblocks⟩

/-- Merging cuts the runs into blocks of neighbours with the same scopes and puts each block
together, so that the runs say the same as before; merging again changes nothing. If the runs say
how the text begins, no two neighbours are left with the same scopes. -/
theorem mergeRuns_regroups (text : Text) (runs : List Run)
    : Regroups runs (mergeRuns text runs)
      ∧ (mergeRuns text runs).flatMap (·.value) = runs.flatMap (·.value)
      ∧ mergeRuns text (mergeRuns text runs) = mergeRuns text runs
      ∧ (runs.flatMap (·.value) <+: text → (mergeRuns text runs).IsChain Run.Differs) := by
  have hregroups := regroups_mergeRuns text runs
  have hsettled := Merging.IsSettled.foldl text runs
  refine ⟨hregroups, hregroups.flatMap_value, ?_, ?_⟩
  . have hagain := hsettled.foldl_merged
    unfold mergeRuns
    rw [hagain]
  . intro htext
    rw [← hregroups.flatMap_value] at htext
    unfold mergeRuns at htext ⊢
    rw [List.isChain_reverse]
    exact (hsettled.isChain htext).imp fun a b hab => hab.symm

/-- Runs that say how a text begins, one of them empty. -/
def leadingRuns : List Run :=
  [⟨["x"], "a".toList⟩, ⟨["x"], "é".toList⟩, ⟨["y"], []⟩, ⟨["y"], "b".toList⟩]

theorem mergeRuns_leadingRuns
    : leadingRuns.flatMap (·.value) <+: "aébc".toList
      ∧ (mergeRuns "aébc".toList leadingRuns).IsChain Run.Differs
      ∧ mergeRuns "aébc".toList leadingRuns = [⟨["x"], "aé".toList⟩, ⟨["y"], "b".toList⟩] := by
  have htext : leadingRuns.flatMap (·.value) <+: "aébc".toList := by decide
  exact ⟨htext, (mergeRuns_regroups _ leadingRuns).2.2.2 htext, by decide⟩

example : mergeRuns "aabb".toList
      [⟨["x"], "a".toList⟩, ⟨["x"], "zz".toList⟩, ⟨["x"], []⟩, ⟨["x"], "b".toList⟩]
    = [⟨["x"], "a".toList⟩, ⟨["x"], "zz".toList⟩, ⟨["x"], "b".toList⟩] := by
  decide

end TextScopes
