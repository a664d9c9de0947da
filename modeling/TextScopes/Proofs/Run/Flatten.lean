import TextScopes.Proofs.Run.Closing
import TextScopes.Proofs.Run.Tiles
import TextScopes.Proofs.Span.Nesting

/-!
This module contains the theory of flattening spans that are in order and nest: the runs tile the
text, and each byte has the scopes of the last span that covers it.
-/

namespace TextScopes

namespace Span

def covers (span : Span) (i : Nat) : Bool := span.start ≤ i && i < span.stop

theorem covers_iff {span : Span} {i : Nat} : span.covers i ↔ span.start ≤ i ∧ i < span.stop := by
  simp [covers]

structure IsPiece (text : Text) (span : Span) : Prop where
  lt : span.start < span.stop
  isBoundary_start : text.IsBoundary span.start
  isBoundary_stop : text.IsBoundary span.stop

end Span

/-- The scopes of a byte: those of the last span that covers it, or the default ones. -/
def scopesAt (base : ScopeStack) (spans : List Span) (i : Nat) : ScopeStack :=
  ((spans.reverse.find? (·.covers i)).map (·.scopes)).getD base

theorem scopesAt_append {base : ScopeStack} {spans : List Span} {span : Span} {i : Nat}
    : scopesAt base (spans ++ [span]) i
        =
      if span.covers i then span.scopes else scopesAt base spans i := by
  unfold scopesAt
  rw [List.reverse_append, List.reverse_singleton, List.singleton_append, List.find?_cons]
  split
  . next h => simp [h]
  . next h => simp [h]

namespace Flattening

/-- The scopes of a byte behind the runs: those of the innermost span that goes on there. -/
def scopesBehind (base : ScopeStack) (opened : List Opened) (i : Nat) : ScopeStack :=
  ((opened.find? (i < ·.1)).map (·.2)).getD base

section

variable {base scopes : ScopeStack} {opened rest : List Opened} {stop i : Nat}

theorem scopesBehind_of_lt (h : i < stop)
    : scopesBehind base ((stop, scopes) :: rest) i = scopes := by
  simp [scopesBehind, h]

theorem scopesBehind_of_le (h : stop ≤ i)
    : scopesBehind base ((stop, scopes) :: rest) i = scopesBehind base rest i := by
  simp [scopesBehind, Nat.not_lt.mpr h]

theorem scopesBehind_append_base
    : scopesBehind base (opened ++ [(stop, base)]) i = scopesBehind base opened i := by
  unfold scopesBehind
  rw [List.find?_append]
  cases opened.find? (i < ·.1) with
  | none =>
    by_cases h : i < stop
    . simp [h]
    . simp [h]
  | some entry => rfl

end

/-- Whether the runs tile the text up to the cursor, and the spans that go on there have the scopes
of all bytes behind it. -/
structure IsTiling (text : Text) (base : ScopeStack) (assigned : Nat → ScopeStack)
    (state : Flattening) : Prop where
  tiles : Tiles text (Uniform assigned) 0 state.cursor state.runs.reverse.flatten
  isBoundary : text.IsBoundary state.cursor
  isBoundary_opened : ∀ entry ∈ state.opened, text.IsBoundary entry.1
  behind : ∀ i, state.cursor ≤ i → assigned i = scopesBehind base state.opened i

variable {text : Text} {base scopes : ScopeStack} {assigned : Nat → ScopeStack}
  {opened rest : List Opened} {runs : List (List Run)} {cursor start stop : Nat}

theorem step_of_nested {span : Span} {state : Flattening} (hspan : span.IsPiece text)
    (hcursor : state.cursor ≤ span.start)
    (hopened : ∀ entry ∈ state.opened, entry.1 ≤ span.start ∨ span.stop ≤ entry.1)
    : let closed := closeUpTo text span.start state.cursor state.runs state.opened
      let parent := closed.opened.head?.getD (text.size, base)
      step text (text.size, base) state span
        =
      ⟨span.start, (span.stop, span.scopes) :: closed.opened,
        runOf text closed.cursor span.start parent.2 :: closed.runs⟩ := by
  unfold step
  have hle : (closeUpTo text span.start state.cursor state.runs state.opened).cursor ≤ span.start :=
    cursor_closeUpTo_le hcursor
  have hsuffix := opened_closeUpTo_suffix text span.start state.cursor state.runs state.opened
  have hhead : ∀ entry ∈ (closeUpTo text span.start state.cursor state.runs
      state.opened).opened.head?, span.start < entry.1 := lt_of_mem_head?_closeUpTo
  generalize closeUpTo text span.start state.cursor state.runs state.opened = closed
    at hle hsuffix hhead ⊢
  rcases closed with ⟨cursor, opened, runs⟩
  dsimp only at *
  -- what goes on at the start of the span goes on until its end
  have hparent : span.stop ≤ (opened.head?.getD (text.size, base)).1 := by
    cases opened with
    | nil => exact hspan.isBoundary_stop.le_size
    | cons entry rest =>
      have hlt : span.start < entry.1 := hhead entry rfl
      have hfits := hopened entry (hsuffix.subset List.mem_cons_self)
      simp only [List.head?_cons, Option.getD_some]
      omega
  -- no offset moves, as the span lies on boundaries and inside its parent
  have hlt := hspan.lt
  have hstart : min (max (text.floor span.start) cursor) (opened.head?.getD (text.size, base)).1
      = span.start := by
    rw [Text.floor_of_isBoundary hspan.isBoundary_start]
    omega
  have hstop : min (max (text.floor span.stop) span.start) (opened.head?.getD (text.size, base)).1
      = span.stop := by
    rw [Text.floor_of_isBoundary hspan.isBoundary_stop]
    omega
  rw [hstart, hstop, if_pos hlt]

theorem foldl_of_nested (holds : List Span → Flattening → Prop)
    (hstep : ∀ {done span state}, holds done state → span.IsPiece text →
      state.cursor ≤ span.start →
      (∀ entry ∈ state.opened, entry.1 ≤ span.start ∨ span.stop ≤ entry.1) →
      holds (done ++ [span]) (step text (text.size, base) state span))
    {done spans : List Span} {state : Flattening} (hstate : holds done state)
    (hspans : ∀ span ∈ spans, span.IsPiece text)
    (hnested : spans.Pairwise fun a b => a.stop ≤ b.start ∨ a.contains b)
    (hcursor : ∀ span ∈ spans, state.cursor ≤ span.start)
    (hopened : ∀ entry ∈ state.opened, ∀ span ∈ spans, entry.1 ≤ span.start ∨ span.stop ≤ entry.1)
    : holds (done ++ spans) (spans.foldl (step text (text.size, base)) state) := by
  induction spans generalizing done state with
  | nil => simpa using hstate
  | cons span spans ih =>
    rcases List.pairwise_cons.mp hnested with ⟨hfirst, hrest⟩
    have hspan := hspans span List.mem_cons_self
    have hlt := hspan.lt
    have hcursor' := hcursor span List.mem_cons_self
    have hopened' : ∀ entry ∈ state.opened, entry.1 ≤ span.start ∨ span.stop ≤ entry.1 :=
      fun entry hentry => hopened entry hentry span List.mem_cons_self
    have hnext := hstep hstate hspan hcursor' hopened'
    have hsuffix := opened_closeUpTo_suffix text span.start state.cursor state.runs state.opened
    rw [step_of_nested hspan hcursor' hopened'] at hnext
    rw [List.foldl_cons, List.append_cons, step_of_nested hspan hcursor' hopened']
    -- the spans that are left lie behind this one or inside it
    apply ih hnext _ hrest
    . intro later hlater
      rcases hfirst later hlater with hle | hcontains
      . exact Nat.le_trans (Nat.le_of_lt hlt) hle
      . exact (Span.contains_iff.mp hcontains).1
    . intro entry hentry later hlater
      cases hentry with
      | head =>
        rcases hfirst later hlater with hle | hcontains
        . exact Or.inl hle
        . exact Or.inr (Span.contains_iff.mp hcontains).2
      | tail _ hentry =>
        exact hopened entry (hsuffix.subset hentry) later (List.mem_cons_of_mem _ hlater)
    . intro later hlater
      exact hspans later (List.mem_cons_of_mem _ hlater)

namespace IsTiling

theorem initial (text : Text) (base : ScopeStack)
    : IsTiling text base (scopesAt base []) ⟨0, [], []⟩ :=
  ⟨Tiles.nil 0, text.isBoundary_zero, nofun, fun _ _ => rfl⟩

theorem close (h : IsTiling text base assigned ⟨cursor, (stop, scopes) :: rest, runs⟩)
    : IsTiling text base assigned
        ⟨max cursor stop, rest, runOf text cursor stop scopes :: runs⟩ := by
  have hstop := h.isBoundary_opened (stop, scopes) List.mem_cons_self
  have hbehind := h.behind
  dsimp only at hbehind hstop
  refine ⟨?_, ?_, ?_, ?_⟩
  . apply h.tiles.push h.isBoundary hstop
    -- before its end the innermost span is the first that goes on
    intro hlt i hi hi'
    rw [hbehind i hi, scopesBehind_of_lt hi']
  . dsimp only
    rcases Nat.le_total cursor stop with hle | hle
    . rw [Nat.max_eq_right hle]
      exact hstop
    . rw [Nat.max_eq_left hle]
      exact h.isBoundary
  . intro entry hentry
    exact h.isBoundary_opened entry (List.mem_cons_of_mem _ hentry)
  . intro i hi
    dsimp only at hi
    rw [hbehind i (by omega), scopesBehind_of_le (by omega)]

theorem keptByClosing : KeptByClosing text (IsTiling text base assigned) := fun h => h.close

theorem bottom {state : Flattening} (h : IsTiling text base assigned state)
    : IsTiling text base assigned
        ⟨state.cursor, state.opened ++ [(text.size, base)], state.runs⟩ where
  tiles := h.tiles
  isBoundary := h.isBoundary
  isBoundary_opened := List.forall_mem_append.mpr
    ⟨h.isBoundary_opened, List.forall_mem_singleton.mpr text.isBoundary_size⟩
  behind := by
    intro i hi
    rw [scopesBehind_append_base]
    exact h.behind i hi

theorem uniform_head (h : IsTiling text base assigned ⟨cursor, opened, runs⟩)
    (hhead : ∀ entry ∈ opened.head?, start < entry.1)
    : Uniform assigned cursor start (opened.head?.getD (text.size, base)).2 := by
  intro i hi hi'
  rw [h.behind i hi]
  cases opened with
  | nil => rfl
  | cons entry rest =>
    have hlt : start < entry.1 := hhead entry rfl
    exact scopesBehind_of_lt (by omega)

theorem opening {spans : List Span} {span : Span}
    (h : IsTiling text base (scopesAt base spans) ⟨cursor, opened, runs⟩)
    (hspan : span.IsPiece text) (hcursor : cursor ≤ span.start)
    (huniform : Uniform (scopesAt base spans) cursor span.start scopes)
    : IsTiling text base (scopesAt base (spans ++ [span]))
        ⟨span.start, (span.stop, span.scopes) :: opened,
          runOf text cursor span.start scopes :: runs⟩ := by
  refine ⟨?_, hspan.isBoundary_start, ?_, ?_⟩
  . have htiles := h.tiles.push h.isBoundary hspan.isBoundary_start fun _ => huniform
    rw [Nat.max_eq_right hcursor] at htiles
    -- the new span begins behind all these runs
    apply htiles.imp
    intro a b scopes _ hb huniform i hi hi'
    have hcovers : ¬ span.covers i := by
      rw [Span.covers_iff]
      omega
    rw [scopesAt_append, if_neg hcovers]
    exact huniform i hi hi'
  . intro entry hentry
    cases hentry with
    | head => exact hspan.isBoundary_stop
    | tail _ hentry => exact h.isBoundary_opened entry hentry
  . intro i hi
    dsimp only at hi ⊢
    rw [scopesAt_append]
    split
    . next hcovers => rw [scopesBehind_of_lt (Span.covers_iff.mp hcovers).2]
    . next hcovers =>
      have hstop : span.stop ≤ i := by
        rw [Span.covers_iff] at hcovers
        omega
      rw [scopesBehind_of_le hstop]
      exact h.behind i (Nat.le_trans hcursor hi)

theorem step {spans : List Span} {span : Span} {state : Flattening}
    (h : IsTiling text base (scopesAt base spans) state) (hspan : span.IsPiece text)
    (hcursor : state.cursor ≤ span.start)
    (hopened : ∀ entry ∈ state.opened, entry.1 ≤ span.start ∨ span.stop ≤ entry.1)
    : IsTiling text base (scopesAt base (spans ++ [span]))
        (Flattening.step text (text.size, base) state span) := by
  have hclosed := keptByClosing.closeUpTo h span.start
  rw [step_of_nested hspan hcursor hopened]
  exact hclosed.opening hspan (cursor_closeUpTo_le hcursor)
    (hclosed.uniform_head lt_of_mem_head?_closeUpTo)

end IsTiling

end Flattening

theorem tiles_flatten {text : Text} {spans : List Span} (base : ScopeStack)
    (hspans : ∀ span ∈ spans, span.IsPiece text)
    (hnested : spans.Pairwise fun a b => a.stop ≤ b.start ∨ a.contains b)
    : Tiles text (Uniform (scopesAt base spans)) 0 text.size (flatten text spans base) := by
  have hfold := Flattening.foldl_of_nested
    (fun done => Flattening.IsTiling text base (scopesAt base done))
    Flattening.IsTiling.step (.initial text base) hspans hnested (fun _ _ => Nat.zero_le _) nofun
  rcases Flattening.IsTiling.keptByClosing.flatten (fun h => h.isBoundary.le_size) hfold.bottom with
    ⟨runs, htiling, hruns⟩
  rw [← hruns]
  exact htiling.tiles

example : flatten "aéb".toList [⟨["x", "r"], 0, 3⟩, ⟨["y", "x", "r"], 1, 3⟩] ["r"]
    = [⟨["x", "r"], "a".toList⟩, ⟨["y", "x", "r"], "é".toList⟩, ⟨["r"], "b".toList⟩] := by
  decide

end TextScopes
