import TextScopes.Proofs.Partial
import TextScopes.Proofs.Run.Merge

/-!
This module contains flattening and merging with all slices, clamps and differences as operations
that may be undefined. Flattening needs none of them outside of its domain, whatever the spans are
like: the spans that go on at the cursor end on boundaries, at or behind it, and each at or before
the end of the span around it. Merging needs runs that tile a text.
-/

namespace TextScopes

namespace Text

/-- The last boundary at or before an offset inside a text, looked for byte by byte. A step below
zero would be undefined. -/
def floorFrom? (text : Text) : (n : Nat) → Option Nat
  | 0 => if (text.drop? 0).isSome then some 0 else none
  | n + 1 => if (text.drop? (n + 1)).isSome then some (n + 1) else text.floorFrom? n

def floor? (text : Text) (n : Nat) : Option Nat := text.floorFrom? (min n text.size)

theorem isSome_drop?_iff {text : Text} {n : Nat} : (text.drop? n).isSome ↔ text.IsBoundary n := by
  rw [Option.isSome_iff_exists]
  constructor
  . rintro ⟨rest, hrest⟩
    rcases drop?_eq_some_iff.mp hrest with ⟨before, hbefore⟩
    exact ⟨before, rest, hbefore⟩
  . rintro ⟨before, rest, hbefore⟩
    exact ⟨rest, drop?_eq_some_iff.mpr ⟨before, hbefore⟩⟩

instance (text : Text) (n : Nat) : Decidable (text.IsBoundary n) :=
  decidable_of_iff _ isSome_drop?_iff

theorem floorFrom?_eq {text : Text} {m n : Nat} (hfloor : text.floor n ≤ m) (hle : m ≤ n)
    : text.floorFrom? m = some (text.floor n) := by
  induction m with
  | zero =>
    rw [Nat.le_zero.mp hfloor, floorFrom?, if_pos (isSome_drop?_iff.mpr text.isBoundary_zero)]
  | succ m ih =>
    rw [floorFrom?]
    split
    . next hboundary =>
      have := (isSome_drop?_iff.mp hboundary).le_floor hle
      rw [Nat.le_antisymm hfloor this]
    . next hboundary =>
      have hne : text.floor n ≠ m + 1 := by
        intro heq
        exact hboundary (isSome_drop?_iff.mpr (heq ▸ text.isBoundary_floor n))
      exact ih (by omega) (by omega)

theorem floor?_eq (text : Text) (n : Nat) : text.floor? n = some (text.floor n) := by
  have hle := text.floor_le n
  have hsize := (text.isBoundary_floor n).le_size
  unfold floor?
  rcases Nat.le_total n text.size with hn | hn
  . rw [Nat.min_eq_left hn]
    exact floorFrom?_eq hle (Nat.le_refl n)
  . rw [Nat.min_eq_right hn]
    exact floorFrom?_eq hsize hn

end Text

/-- The run of a piece of a text, which must lie on boundaries. -/
def runOf? (text : Text) (start stop : Nat) (scopes : ScopeStack) : Option (List Run) :=
  if start < stop then (text.slice? start stop).map fun value => [⟨scopes, value⟩] else some []

namespace Flattening

def closeUpTo? (text : Text) (start : Nat) (cursor : Nat) (runs : List (List Run)) :
    List Opened → Option Flattening
  | [] => some ⟨cursor, [], runs⟩
  | (stop, scopes) :: rest =>
    if start < stop then some ⟨cursor, (stop, scopes) :: rest, runs⟩
    else do
      let run ← runOf? text cursor stop scopes
      closeUpTo? text start (max cursor stop) (run :: runs) rest

def closeAll? (text : Text) (cursor : Nat) (runs : List (List Run)) :
    List Opened → Option (List (List Run))
  | [] => some runs
  | (stop, scopes) :: rest => do
    let run ← runOf? text cursor stop scopes
    closeAll? text (max cursor stop) (run :: runs) rest

def step? (text : Text) (bottom : Opened) (state : Flattening) (span : Span) :
    Option Flattening := do
  let state ← closeUpTo? text span.start state.cursor state.runs state.opened
  let parent := state.opened.head?.getD bottom
  let start ← clamp? state.cursor parent.1 (← text.floor? span.start)
  let stop ← clamp? start parent.1 (← text.floor? span.stop)
  if start < stop then do
    let run ← runOf? text state.cursor start parent.2
    some ⟨start, (stop, span.scopes) :: state.opened, run :: state.runs⟩
  else some state

end Flattening

def flatten? (text : Text) (spans : List Span) (defaultScopes : ScopeStack) :
    Option (List Run) := do
  let bottom : Opened := (text.size, defaultScopes)
  let state ← spans.foldlM (Flattening.step? text bottom) ⟨0, [], []⟩
  let runs ← Flattening.closeAll? text state.cursor state.runs (state.opened ++ [bottom])
  some runs.reverse.flatten

def Merging.step? (text : Text) (state : Merging) (run : Run) : Option Merging :=
  let stop := state.offset + run.value.size
  match state.merged with
  | last :: before =>
    if last.scopes = run.scopes then do
      let piece ← text.slice? state.lastStart stop
      if last.value.isPrefixOf piece && run.value.isSuffixOf piece then
        some ⟨⟨last.scopes, piece⟩ :: before, state.lastStart, stop⟩
      else some ⟨run :: last :: before, state.offset, stop⟩
    else some ⟨run :: last :: before, state.offset, stop⟩
  | [] => some ⟨[run], state.offset, stop⟩

def mergeRuns? (text : Text) (runs : List Run) : Option (List Run) := do
  let state ← runs.foldlM (Merging.step? text) ⟨[], 0, 0⟩
  some state.merged.reverse

variable {text : Text} {scopes : ScopeStack} {cursor start stop : Nat} {runs : List (List Run)}
  {opened rest : List Opened} {span : Span}

theorem runOf?_eq (hstart : text.IsBoundary start) (hstop : text.IsBoundary stop)
    : runOf? text start stop scopes = some (runOf text start stop scopes) := by
  unfold runOf? runOf
  split
  . next hlt =>
    rcases hstart.exists_slice hstop (Nat.le_of_lt hlt) with ⟨value, hvalue⟩
    rw [hvalue]
    rfl
  . rfl

namespace Flattening

/-- Whether spans may go on at a cursor: they end on boundaries at or behind it, the inner ones
first. -/
structure GoOn (text : Text) (cursor : Nat) (opened : List Opened) : Prop where
  isBoundary : text.IsBoundary cursor
  isBoundary_opened : ∀ entry ∈ opened, text.IsBoundary entry.1
  le : ∀ entry ∈ opened, cursor ≤ entry.1
  inward : opened.Pairwise fun inner outer => inner.1 ≤ outer.1

theorem isBoundary_clamp {least most n : Nat} (h : text.IsBoundary n)
    (hleast : text.IsBoundary least) (hmost : text.IsBoundary most)
    : text.IsBoundary (min (max n least) most) := by
  rcases Nat.le_total (max n least) most with hle | hle
  . rw [Nat.min_eq_left hle]
    rcases Nat.le_total n least with hle | hle
    . rw [Nat.max_eq_right hle]
      exact hleast
    . rw [Nat.max_eq_left hle]
      exact h
  . rw [Nat.min_eq_right hle]
    exact hmost

namespace GoOn

theorem initial (text : Text) : GoOn text 0 [] := ⟨text.isBoundary_zero, nofun, nofun, .nil⟩

theorem close (h : GoOn text cursor ((stop, scopes) :: rest))
    : GoOn text (max cursor stop) rest := by
  have hstop := h.isBoundary_opened _ List.mem_cons_self
  have hle := h.le _ List.mem_cons_self
  have hinward := List.pairwise_cons.mp h.inward
  rw [Nat.max_eq_right hle]
  exact ⟨hstop, fun entry hentry => h.isBoundary_opened entry (List.mem_cons_of_mem _ hentry),
    hinward.1, hinward.2⟩

theorem runOf?_eq (h : GoOn text cursor ((stop, scopes) :: rest))
    : runOf? text cursor stop scopes = some (runOf text cursor stop scopes) :=
  TextScopes.runOf?_eq h.isBoundary (h.isBoundary_opened _ List.mem_cons_self)

theorem closeUpTo (h : GoOn text cursor opened) (start : Nat) (runs : List (List Run))
    : let state := Flattening.closeUpTo text start cursor runs opened
      closeUpTo? text start cursor runs opened = some state
        ∧ GoOn text state.cursor state.opened := by
  induction opened generalizing cursor runs with
  | nil => exact ⟨rfl, h⟩
  | cons entry rest ih =>
    rcases entry with ⟨stop, scopes⟩
    unfold closeUpTo? Flattening.closeUpTo
    split
    . exact ⟨rfl, h⟩
    . rw [h.runOf?_eq]
      exact ih h.close _

theorem closeAll (h : GoOn text cursor opened)
    : closeAll? text cursor runs opened = some (Flattening.closeAll text cursor runs opened) := by
  induction opened generalizing cursor runs with
  | nil => rfl
  | cons entry rest ih =>
    rcases entry with ⟨stop, scopes⟩
    unfold closeAll? Flattening.closeAll
    rw [h.runOf?_eq]
    exact ih h.close

theorem bottom (h : GoOn text cursor opened)
    : GoOn text cursor (opened ++ [(text.size, scopes)]) where
  isBoundary := h.isBoundary
  isBoundary_opened := List.forall_mem_append.mpr
    ⟨h.isBoundary_opened, List.forall_mem_singleton.mpr text.isBoundary_size⟩
  le := List.forall_mem_append.mpr ⟨h.le, List.forall_mem_singleton.mpr h.isBoundary.le_size⟩
  inward := by
    rw [List.pairwise_append]
    refine ⟨h.inward, List.pairwise_singleton _ _, ?_⟩
    intro inner hinner outer houter
    rw [List.mem_singleton.mp houter]
    exact (h.isBoundary_opened inner hinner).le_size

theorem parent (h : GoOn text cursor opened) (base : ScopeStack)
    : let parent : Opened := opened.head?.getD (text.size, base)
      text.IsBoundary parent.1 ∧ cursor ≤ parent.1
        ∧ ∀ entry ∈ opened, parent.1 ≤ entry.1 := by
  cases opened with
  | nil => exact ⟨text.isBoundary_size, h.isBoundary.le_size, nofun⟩
  | cons entry rest =>
    refine ⟨h.isBoundary_opened _ List.mem_cons_self, h.le _ List.mem_cons_self, ?_⟩
    intro other hother
    cases hother with
    | head => exact Nat.le_refl _
    | tail _ hother => exact (List.pairwise_cons.mp h.inward).1 other hother

theorem opening (h : GoOn text cursor opened) (hstart : text.IsBoundary start)
    (hstop : text.IsBoundary stop) (hle : start ≤ stop) (hinner : ∀ entry ∈ opened, stop ≤ entry.1)
    : GoOn text start ((stop, scopes) :: opened) where
  isBoundary := hstart
  isBoundary_opened := List.forall_mem_cons.mpr ⟨hstop, h.isBoundary_opened⟩
  le := List.forall_mem_cons.mpr
    ⟨hle, fun entry hentry => Nat.le_trans hle (hinner entry hentry)⟩
  inward := List.pairwise_cons.mpr ⟨hinner, h.inward⟩

theorem step {state : Flattening} (h : GoOn text state.cursor state.opened) (base : ScopeStack)
    (span : Span)
    : let next := Flattening.step text (text.size, base) state span
      Flattening.step? text (text.size, base) state span = some next
        ∧ GoOn text next.cursor next.opened := by
  unfold Flattening.step? Flattening.step
  have hclosed := h.closeUpTo span.start state.runs
  dsimp only at hclosed ⊢
  rw [hclosed.1]
  simp only [Option.bind_eq_bind, Option.bind_some, Text.floor?_eq]
  generalize Flattening.closeUpTo text span.start state.cursor state.runs state.opened = closed
    at hclosed ⊢
  rcases closed with ⟨cursor, opened, runs⟩
  have hgoOn : GoOn text cursor opened := hclosed.2
  rcases hgoOn.parent base with ⟨hparent, hle, hinner⟩
  generalize opened.head?.getD (text.size, base) = parent at hparent hle hinner ⊢
  have hstart := isBoundary_clamp (text.isBoundary_floor span.start) hgoOn.isBoundary hparent
  rw [clamp?_eq_some hle, Option.bind_some]
  have hle : min (max (text.floor span.start) cursor) parent.1 ≤ parent.1 := Nat.min_le_right _ _
  generalize min (max (text.floor span.start) cursor) parent.1 = start at hstart hle ⊢
  have hstop := isBoundary_clamp (text.isBoundary_floor span.stop) hstart hparent
  rw [clamp?_eq_some hle, Option.bind_some]
  have hle : min (max (text.floor span.stop) start) parent.1 ≤ parent.1 := Nat.min_le_right _ _
  generalize min (max (text.floor span.stop) start) parent.1 = stop at hstop hle ⊢
  split
  . next hlt =>
    rw [TextScopes.runOf?_eq hgoOn.isBoundary hstart]
    refine ⟨rfl, hgoOn.opening hstart hstop (Nat.le_of_lt hlt) ?_⟩
    intro entry hentry
    exact Nat.le_trans hle (hinner entry hentry)
  . exact ⟨rfl, hgoOn⟩

end GoOn

end Flattening

/-- Whatever the spans are like, no clamp has its bounds in the wrong order and no piece is cut
inside a character. -/
theorem flatten?_eq (text : Text) (spans : List Span) (base : ScopeStack)
    : flatten? text spans base = some (flatten text spans base) := by
  have hfold : let state := spans.foldl (Flattening.step text (text.size, base)) ⟨0, [], []⟩
      spans.foldlM (Flattening.step? text (text.size, base)) ⟨0, [], []⟩ = some state
        ∧ Flattening.GoOn text state.cursor state.opened :=
    foldlM_eq_some (fun state : Flattening => Flattening.GoOn text state.cursor state.opened)
      (fun span _ state hstate => hstate.step base span) (.initial text)
  unfold flatten? flatten
  dsimp only at hfold ⊢
  rw [hfold.1, Option.bind_eq_bind, Option.bind_some, hfold.2.bottom.closeAll]
  rfl

namespace Merging

variable {holds : Nat → Nat → ScopeStack → Prop} {state : Merging} {run : Run} {runs : List Run}

theorem IsMerged.step?_eq (h : IsMerged text holds state)
    (hrun : Tiles text holds state.offset stop [run])
    : step? text state run = some (Merging.step text state run) := by
  rcases hrun.of_singleton with ⟨-, hvalue, -⟩
  rcases Text.size_of_slice? hvalue with rfl
  cases h with
  | empty => rfl
  | @latest last before lastStart offset hbefore hlast hdiffers =>
    rcases hlast.of_singleton with ⟨-, hvalue', -⟩
    unfold step? Merging.step
    dsimp only at *
    rw [joined?_of_slice hvalue' hvalue, Text.slice?_append hvalue' hvalue]
    split
    . simp
    . rfl

theorem IsMerged.foldlM_eq (h : IsMerged text holds state)
    (hruns : Tiles text holds state.offset stop runs) (hjoin : Joins holds)
    : runs.foldlM (step? text) state = some (runs.foldl (Merging.step text) state) := by
  induction runs generalizing state with
  | nil => rfl
  | cons run runs ih =>
    cases hruns with
    | cons hlt hvalue hscopes hruns =>
      have hrun := Tiles.cons hlt hvalue hscopes (Tiles.nil _)
      rcases h.step hrun hjoin with ⟨hnext, hoffset⟩
      rw [List.foldlM_cons, h.step?_eq hrun]
      rw [← hoffset] at hruns
      exact ih hnext hruns

end Merging

theorem mergeRuns?_eq {holds : Nat → Nat → ScopeStack → Prop} {runs : List Run}
    (h : Tiles text holds 0 stop runs) (hjoin : Joins holds)
    : mergeRuns? text runs = some (mergeRuns text runs) := by
  unfold mergeRuns? mergeRuns
  rw [Merging.IsMerged.empty.foldlM_eq h hjoin]
  rfl

end TextScopes
