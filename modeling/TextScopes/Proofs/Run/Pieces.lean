import Mathlib.Data.Finset.Sort
import Mathlib.Data.List.Find
import TextScopes.Proofs.Run.Flatten
import TextScopes.Proofs.Run.Partial

/-!
This module contains what flattening computes, said without a stack: the text is cut wherever a span
starts or stops, and each piece has the scopes of the last span around it. The offsets at which runs
end are compared with these cuts, one step after the other.
-/

namespace TextScopes

/-- The offsets at which a text is cut: its own ends, and where spans start and stop. -/
def cuts (text : Text) (spans : List Span) : Finset Nat :=
  {0, text.size} ∪ (spans.flatMap fun span => [span.start, span.stop]).toFinset

/-- Whether a span covers a piece of a text as a whole. -/
def Span.coversPiece (span : Span) (start stop : Nat) : Bool :=
  span.start ≤ start && stop ≤ span.stop

/-- The scopes of a piece of a text: those of the last span around it, or the default ones. -/
def scopesOver (base : ScopeStack) (spans : List Span) (start stop : Nat) : ScopeStack :=
  ((spans.reverse.find? (·.coversPiece start stop)).map (·.scopes)).getD base

/-- The pieces of a text between neighbouring cuts, which all have to lie on boundaries. -/
def pieces? (text : Text) (spans : List Span) (base : ScopeStack) : Option (List Run) :=
  let points := (cuts text spans).sort
  (points.zip points.tail).mapM fun (start, stop) =>
    (text.slice? start stop).map (⟨scopesOver base spans start stop, ·⟩)

/-- The offsets at which runs begin and end that lie side by side from an offset on. -/
def offsets (start : Nat) : List Run → List Nat
  | [] => [start]
  | run :: runs => start :: offsets (start + run.value.size) runs

theorem mem_cuts_append {text : Text} {spans : List Span} {span : Span} {p : Nat}
    : p ∈ cuts text (spans ++ [span]) ↔ p ∈ cuts text spans ∨ p = span.start ∨ p = span.stop := by
  simp only [cuts, List.flatMap_append, List.toFinset_append, Finset.mem_union]
  simp [or_assoc]

theorem offsets_eq_cons (start : Nat) (runs : List Run)
    : offsets start runs = start :: (offsets start runs).tail := by
  cases runs <;> rfl

namespace Tiles

variable {text : Text} {holds : Nat → Nat → ScopeStack → Prop} {start mid stop p : Nat}
  {runs others : List Run}

theorem le_of_mem_offsets (h : Tiles text holds start stop runs) (hp : p ∈ offsets start runs)
    : start ≤ p := by
  induction h with
  | nil start => exact Nat.le_of_eq (List.mem_singleton.mp hp).symm
  | cons hlt hvalue _ _ ih =>
    cases Text.size_of_slice? hvalue
    cases hp with
    | head => exact Nat.le_refl _
    | tail _ hp => exact Nat.le_trans (Nat.le_of_lt hlt) (ih hp)

theorem pairwise_offsets (h : Tiles text holds start stop runs)
    : (offsets start runs).Pairwise (· < ·) := by
  induction h with
  | nil start => exact List.pairwise_singleton _ _
  | cons hlt hvalue _ hruns ih =>
    cases Text.size_of_slice? hvalue
    refine List.Pairwise.cons ?_ ih
    intro p hp
    exact Nat.lt_of_lt_of_le hlt (hruns.le_of_mem_offsets hp)

theorem mem_offsets_append (h : Tiles text holds start mid runs)
    : p ∈ offsets start (runs ++ others) ↔ p ∈ offsets start runs ∨ p ∈ offsets mid others := by
  induction h with
  | nil start =>
    rw [List.nil_append, offsets_eq_cons start others]
    simp [offsets]
  | cons hlt hvalue _ _ ih =>
    cases Text.size_of_slice? hvalue
    rw [List.cons_append, offsets, offsets, List.mem_cons, List.mem_cons, ih, or_assoc]

theorem stop_mem_offsets (h : Tiles text holds start stop runs) : stop ∈ offsets start runs := by
  rw [← List.append_nil runs, h.mem_offsets_append]
  exact Or.inr List.mem_cons_self

theorem adjacent (h : Tiles text holds start stop runs)
    : Tiles text (fun a b scopes => a < b ∧ holds a b scopes ∧
        ∀ p ∈ offsets start runs, p ≤ a ∨ b ≤ p) start stop runs := by
  induction h with
  | nil start => exact nil start
  | @cons start mid stop run runs hlt hvalue hscopes hruns ih =>
    cases Text.size_of_slice? hvalue
    refine cons hlt hvalue ⟨hlt, hscopes, ?_⟩ ?_
    . intro p hp
      cases hp with
      | head => exact Or.inl (Nat.le_refl _)
      | tail _ hp => exact Or.inr (hruns.le_of_mem_offsets hp)
    . apply ih.imp
      rintro a b scopes ha - ⟨hlt', hscopes, hadjacent⟩
      refine ⟨hlt', hscopes, ?_⟩
      intro p hp
      cases hp with
      | head => exact Or.inl (by omega)
      | tail _ hp => exact hadjacent p hp

theorem mapM_offsets {scopesOf : Nat → Nat → ScopeStack}
    (h : Tiles text (fun a b scopes => scopes = scopesOf a b) start stop runs)
    : ((offsets start runs).zip (offsets start runs).tail).mapM
          (fun p => (text.slice? p.1 p.2).map (Run.mk (scopesOf p.1 p.2)))
        =
      some runs := by
  induction h with
  | nil start => rfl
  | @cons start mid stop run runs hlt hvalue hscopes hruns ih =>
    have hmid := Text.size_of_slice? hvalue
    rw [offsets, List.tail_cons, ← hmid]
    rw [offsets_eq_cons mid runs] at ih ⊢
    rw [List.zip_cons_cons, List.mapM_cons, hvalue]
    rw [List.tail_cons] at ih
    rw [ih, ← hscopes]
    rfl

end Tiles

namespace Flattening

variable {text : Text} {base scopes : ScopeStack} {assigned : Nat → ScopeStack}
  {holds : Nat → Nat → ScopeStack → Prop} {points : Finset Nat} {cursor stop p : Nat}
  {opened rest : List Opened} {runs : List (List Run)}

theorem mem_offsets_runOf (hcursor : text.IsBoundary cursor) (hstop : text.IsBoundary stop)
    (hle : cursor ≤ stop)
    : p ∈ offsets cursor (runOf text cursor stop scopes) ↔ p = cursor ∨ p = stop := by
  unfold runOf
  split
  . rcases hcursor.exists_slice hstop hle with ⟨value, hvalue⟩
    cases Text.size_of_slice? hvalue
    rw [hvalue]
    simp [offsets]
  . next hge =>
    cases Nat.le_antisymm hle (Nat.not_lt.mp hge)
    simp [offsets]

theorem mem_offsets_cons (htiles : Tiles text holds 0 cursor runs.reverse.flatten)
    (hcursor : text.IsBoundary cursor) (hstop : text.IsBoundary stop) (hle : cursor ≤ stop)
    : p ∈ offsets 0 (runOf text cursor stop scopes :: runs).reverse.flatten
        ↔ p ∈ offsets 0 runs.reverse.flatten ∨ p = stop := by
  rw [List.reverse_cons, List.flatten_append, List.flatten_singleton, htiles.mem_offsets_append,
    mem_offsets_runOf hcursor hstop hle]
  constructor
  . rintro (hp | rfl | rfl)
    . exact Or.inl hp
    . exact Or.inl htiles.stop_mem_offsets
    . exact Or.inr rfl
  . rintro (hp | rfl)
    . exact Or.inl hp
    . exact Or.inr (Or.inr rfl)

/-- Whether a text is cut where runs begin or end and where spans that go on will stop. -/
structure IsCut (text : Text) (points : Finset Nat) (state : Flattening) : Prop where
  goOn : GoOn text state.cursor state.opened
  mem_iff : ∀ {p}, p ∈ points
    ↔ p ∈ offsets 0 state.runs.reverse.flatten ∨ p ∈ state.opened.map (·.1) ∨ p = text.size

namespace IsCut

theorem close (h : IsCut text points ⟨cursor, (stop, scopes) :: rest, runs⟩)
    (htiles : Tiles text holds 0 cursor runs.reverse.flatten)
    : IsCut text points ⟨max cursor stop, rest, runOf text cursor stop scopes :: runs⟩ where
  goOn := h.goOn.close
  mem_iff := by
    intro p
    have hstop := h.goOn.isBoundary_opened _ List.mem_cons_self
    have hle := h.goOn.le _ List.mem_cons_self
    rw [h.mem_iff, mem_offsets_cons htiles h.goOn.isBoundary hstop hle]
    rw [List.map_cons, List.mem_cons, or_assoc, or_assoc]

theorem keptByClosing : KeptByClosing text fun state =>
    IsTiling text base assigned state ∧ IsCut text points state := by
  rintro cursor stop scopes rest runs ⟨htiling, hcut⟩
  exact ⟨htiling.close, hcut.close htiling.tiles⟩

theorem initial (text : Text) : IsCut text (cuts text []) ⟨0, [], []⟩ where
  goOn := .initial text
  mem_iff := by simp [cuts, offsets]

theorem bottom {state : Flattening} (h : IsCut text points state)
    : IsCut text points ⟨state.cursor, state.opened ++ [(text.size, base)], state.runs⟩ where
  goOn := h.goOn.bottom
  mem_iff := by
    intro p
    rw [h.mem_iff, List.map_append, List.mem_append]
    simp

theorem step {spans : List Span} {span : Span} {state : Flattening}
    (h : IsTiling text base (scopesAt base spans) state ∧ IsCut text (cuts text spans) state)
    (hspan : span.IsPiece text) (hcursor : state.cursor ≤ span.start)
    (hopened : ∀ entry ∈ state.opened, entry.1 ≤ span.start ∨ span.stop ≤ entry.1)
    : let next := Flattening.step text (text.size, base) state span
      IsTiling text base (scopesAt base (spans ++ [span])) next
        ∧ IsCut text (cuts text (spans ++ [span])) next := by
  have hclosed := keptByClosing.closeUpTo h span.start
  refine ⟨h.1.step hspan hcursor hopened, (h.2.goOn.step base span).2, ?_⟩
  intro p
  rw [step_of_nested hspan hcursor hopened, mem_cuts_append, hclosed.2.mem_iff,
    mem_offsets_cons hclosed.1.tiles hclosed.1.isBoundary hspan.isBoundary_start
      (cursor_closeUpTo_le hcursor)]
  rw [List.map_cons, List.mem_cons]
  tauto

end IsCut

/-- Where all runs are made, they begin and end at the cuts. -/
theorem IsCut.sort_eq (h : IsCut text points ⟨text.size, [], runs⟩)
    (htiles : Tiles text holds 0 text.size runs.reverse.flatten)
    : points.sort = offsets 0 runs.reverse.flatten := by
  have hpoints : points = (offsets 0 runs.reverse.flatten).toFinset := by
    ext p
    rw [h.mem_iff, List.mem_toFinset]
    constructor
    . rintro (hp | hp | rfl)
      . exact hp
      . contradiction
      . exact htiles.stop_mem_offsets
    . exact Or.inl
  have hpairwise := htiles.pairwise_offsets
  rw [hpoints, List.toFinset_sort (· ≤ ·) (hpairwise.imp Nat.ne_of_lt)]
  exact hpairwise.imp Nat.le_of_lt

end Flattening

variable {text : Text} {spans : List Span}

instance (span : Span) : Decidable (span.IsPiece text) :=
  decidable_of_iff
    (span.start < span.stop ∧ text.IsBoundary span.start ∧ text.IsBoundary span.stop)
    ⟨fun h => ⟨h.1, h.2.1, h.2.2⟩, fun h => ⟨h.lt, h.isBoundary_start, h.isBoundary_stop⟩⟩

theorem stop_mem_cuts {span : Span} (h : span ∈ spans) : span.stop ∈ cuts text spans := by
  unfold cuts
  rw [Finset.mem_union, List.mem_toFinset]
  exact Or.inr (List.mem_flatMap_of_mem h (by simp))

theorem Span.coversPiece_eq_covers {span : Span} {start stop : Nat} (hlt : start < stop)
    (h : span.stop ≤ start ∨ stop ≤ span.stop)
    : span.coversPiece start stop = span.covers start := by
  rw [Bool.eq_iff_iff, Span.covers_iff]
  simp only [Span.coversPiece, Bool.and_eq_true, decide_eq_true_eq]
  omega

theorem scopesOver_eq_scopesAt {base : ScopeStack} {start stop : Nat} (hlt : start < stop)
    (h : ∀ span ∈ spans, span.stop ≤ start ∨ stop ≤ span.stop)
    : scopesOver base spans start stop = scopesAt base spans start := by
  unfold scopesOver scopesAt
  rw [List.find?_congr]
  intro span hspan
  exact Span.coversPiece_eq_covers hlt (h span (List.mem_reverse.mp hspan))

/-- If spans are pieces of the text and each later one lies behind an earlier one or inside it, the
runs are the pieces between neighbouring cuts, each with the scopes of the last span around it. -/
theorem pieces?_eq_flatten (base : ScopeStack) (hspans : ∀ span ∈ spans, span.IsPiece text)
    (hnested : spans.Pairwise fun a b => a.stop ≤ b.start ∨ a.contains b)
    : pieces? text spans base = some (flatten text spans base) := by
  have hfold := Flattening.foldl_of_nested
    (fun done state => Flattening.IsTiling text base (scopesAt base done) state
      ∧ Flattening.IsCut text (cuts text done) state)
    Flattening.IsCut.step ⟨.initial text base, .initial text⟩ hspans hnested
    (fun _ _ => Nat.zero_le _) nofun
  rcases Flattening.IsCut.keptByClosing.flatten (fun h => h.1.isBoundary.le_size)
    ⟨hfold.1.bottom, hfold.2.bottom⟩ with ⟨runs, ⟨htiling, hcut⟩, hruns⟩
  have hsort := hcut.sort_eq htiling.tiles
  rw [List.nil_append] at hsort
  unfold pieces?
  rw [← hruns, hsort]
  apply Tiles.mapM_offsets
  apply htiling.tiles.adjacent.imp
  rintro start stop scopes - - ⟨hlt, huniform, hadjacent⟩
  rw [← huniform start (Nat.le_refl start) hlt]
  refine (scopesOver_eq_scopesAt hlt ?_).symm
  intro span hspan
  apply hadjacent
  rw [← hsort, Finset.mem_sort]
  exact stop_mem_cuts hspan

/-- Spans with a common start, a common stop, equal offsets, and side by side. -/
def nestedSpans : List Span :=
  [⟨["x", "r"], 0, 4⟩, ⟨["y", "x", "r"], 0, 4⟩, ⟨["a", "y", "x", "r"], 0, 1⟩,
    ⟨["b", "y", "x", "r"], 1, 3⟩, ⟨["z", "r"], 4, 5⟩]

theorem pieces?_nestedSpans
    : (∀ span ∈ nestedSpans, span.IsPiece "aébcd".toList)
      ∧ nestedSpans.Pairwise (fun a b => a.stop ≤ b.start ∨ a.contains b)
      ∧ pieces? "aébcd".toList nestedSpans ["r"]
        = some [⟨["a", "y", "x", "r"], "a".toList⟩, ⟨["b", "y", "x", "r"], "é".toList⟩,
            ⟨["y", "x", "r"], "b".toList⟩, ⟨["z", "r"], "c".toList⟩, ⟨["r"], "d".toList⟩] := by
  have hspans : ∀ span ∈ nestedSpans, span.IsPiece "aébcd".toList := by decide
  have hnested : nestedSpans.Pairwise fun a b => a.stop ≤ b.start ∨ a.contains b := by decide
  refine ⟨hspans, hnested, ?_⟩
  rw [pieces?_eq_flatten ["r"] hspans hnested]
  decide

end TextScopes
