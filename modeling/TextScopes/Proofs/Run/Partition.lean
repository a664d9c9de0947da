import TextScopes.Proofs.Run.Closing
import TextScopes.Proofs.Run.Partial

/-!
This module contains what is left of flattening when nothing is known of the spans: they may stand
in any order, overlap, end before they start, reach beyond the text or begin inside a character. The
runs still make up the text, and a run that does not have the default scopes has those of a span
around it.
-/

namespace TextScopes

/-- Whether scopes are the default ones, or those of a span around a piece of the text. The offsets
of the span count as moved back to boundaries. -/
def ScopesFrom (text : Text) (base : ScopeStack) (spans : List Span) (start stop : Nat)
    (scopes : ScopeStack) : Prop :=
  scopes = base ∨ ∃ span ∈ spans,
    span.scopes = scopes ∧ text.floor span.start ≤ start ∧ stop ≤ text.floor span.stop

section

variable {text : Text} {base scopes : ScopeStack} {spans more : List Span}
  {holds : Nat → Nat → ScopeStack → Prop} {start start' stop stop' : Nat} {run : Run}
  {before after : List Run}

theorem ScopesFrom.inside (h : ScopesFrom text base spans start stop scopes)
    (hstart : start ≤ start') (hstop : stop' ≤ stop)
    : ScopesFrom text base spans start' stop' scopes := by
  rcases h with h | ⟨span, hspan, hscopes, hle, hge⟩
  . exact Or.inl h
  . exact Or.inr ⟨span, hspan, hscopes, Nat.le_trans hle hstart, Nat.le_trans hstop hge⟩

theorem ScopesFrom.append (h : ScopesFrom text base spans start stop scopes)
    : ScopesFrom text base (spans ++ more) start stop scopes := by
  rcases h with h | ⟨span, hspan, hscopes⟩
  . exact Or.inl h
  . exact Or.inr ⟨span, List.mem_append_left _ hspan, hscopes⟩

theorem Tiles.holds_of_append (h : Tiles text holds start stop (before ++ run :: after))
    : let place := start + Text.size (before.flatMap (·.value))
      holds place (place + run.value.size) run.scopes := by
  induction before generalizing start with
  | nil =>
    cases h with
    | cons _ hvalue hscopes _ =>
      cases Text.size_of_slice? hvalue
      exact hscopes
  | cons first before ih =>
    cases h with
    | cons _ hvalue _ hruns =>
      cases Text.size_of_slice? hvalue
      have hrun := ih hruns
      dsimp only at hrun ⊢
      rw [List.flatMap_cons, Text.size_append, ← Nat.add_assoc]
      exact hrun

end

namespace Flattening

variable {text : Text} {base scopes : ScopeStack} {spans : List Span} {cursor stop : Nat}
  {rest : List Opened} {runs : List (List Run)} {state : Flattening} {span : Span}

/-- What a step does: it closes spans and then opens the next one, unless nothing of it is left
between the runs and the end of its parent. -/
theorem GoOn.step_cases (h : GoOn text state.cursor state.opened) (base : ScopeStack) (span : Span)
    : let closed := Flattening.closeUpTo text span.start state.cursor state.runs state.opened
      let parent := closed.opened.head?.getD (text.size, base)
      let next := Flattening.step text (text.size, base) state span
      next = closed ∨ ∃ start stop,
        next = ⟨start, (stop, span.scopes) :: closed.opened,
          runOf text closed.cursor start parent.2 :: closed.runs⟩
        ∧ closed.cursor ≤ start ∧ start ≤ parent.1
        ∧ text.floor span.start ≤ start ∧ stop ≤ text.floor span.stop := by
  have hclosed := (h.closeUpTo span.start state.runs).2
  unfold Flattening.step
  dsimp only at hclosed ⊢
  generalize Flattening.closeUpTo text span.start state.cursor state.runs state.opened = closed
    at hclosed ⊢
  rcases hclosed.parent base with ⟨-, hle, -⟩
  generalize closed.opened.head?.getD (text.size, base) = parent at hle ⊢
  split
  . next hlt =>
    refine Or.inr ⟨_, _, rfl, ?_, ?_, ?_, ?_⟩
    all_goals omega
  . exact Or.inl rfl

/-- Whether the runs so far, and the spans that go on, have the scopes of spans around them. -/
structure StemsFrom (text : Text) (base : ScopeStack) (spans : List Span) (state : Flattening)
    : Prop where
  goOn : GoOn text state.cursor state.opened
  tiles : Tiles text (ScopesFrom text base spans) 0 state.cursor state.runs.reverse.flatten
  opened : ∀ entry ∈ state.opened, ScopesFrom text base spans state.cursor entry.1 entry.2

namespace StemsFrom

theorem initial (text : Text) (base : ScopeStack) : StemsFrom text base [] ⟨0, [], []⟩ :=
  ⟨.initial text, Tiles.nil 0, nofun⟩

theorem append (h : StemsFrom text base spans state) (more : List Span)
    : StemsFrom text base (spans ++ more) state where
  goOn := h.goOn
  tiles := h.tiles.imp fun _ _ _ _ _ => ScopesFrom.append
  opened entry hentry := (h.opened entry hentry).append

theorem close (h : StemsFrom text base spans ⟨cursor, (stop, scopes) :: rest, runs⟩)
    : StemsFrom text base spans
        ⟨max cursor stop, rest, runOf text cursor stop scopes :: runs⟩ where
  goOn := h.goOn.close
  tiles := h.tiles.push h.goOn.isBoundary (h.goOn.isBoundary_opened _ List.mem_cons_self)
    fun _ => h.opened _ List.mem_cons_self
  opened entry hentry :=
    (h.opened entry (List.mem_cons_of_mem _ hentry)).inside (Nat.le_max_left _ _) (Nat.le_refl _)

theorem keptByClosing : KeptByClosing text (StemsFrom text base spans) := fun h => h.close

theorem bottom (h : StemsFrom text base spans state)
    : StemsFrom text base spans
        ⟨state.cursor, state.opened ++ [(text.size, base)], state.runs⟩ where
  goOn := h.goOn.bottom
  tiles := h.tiles
  opened := List.forall_mem_append.mpr ⟨h.opened, List.forall_mem_singleton.mpr (Or.inl rfl)⟩

theorem parent (h : StemsFrom text base spans state)
    : let parent := state.opened.head?.getD (text.size, base)
      ScopesFrom text base spans state.cursor parent.1 parent.2 := by
  cases hhead : state.opened.head? with
  | none => exact Or.inl rfl
  | some entry => exact h.opened entry (List.mem_of_mem_head? hhead)

theorem step (h : StemsFrom text base spans state) (span : Span)
    : StemsFrom text base (spans ++ [span])
        (Flattening.step text (text.size, base) state span) := by
  have hgoOn := (h.goOn.step base span).2
  have hclosed := (keptByClosing.closeUpTo h span.start).append [span]
  rcases h.goOn.step_cases base span with
    hnext | ⟨start, stop, hnext, hcursor, hparent, hstart, hstop⟩
  . rw [hnext]
    exact hclosed
  . rw [hnext] at hgoOn ⊢
    refine ⟨hgoOn, ?_, ?_⟩
    . have htiles := hclosed.tiles.push hclosed.goOn.isBoundary hgoOn.isBoundary
        fun _ => hclosed.parent.inside (Nat.le_refl _) hparent
      rw [Nat.max_eq_right hcursor] at htiles
      exact htiles
    . intro entry hentry
      cases hentry with
      | head => exact Or.inr ⟨span, by simp, rfl, hstart, hstop⟩
      | tail _ hentry => exact (hclosed.opened entry hentry).inside hcursor (Nat.le_refl _)

theorem foldl (text : Text) (base : ScopeStack) (spans : List Span)
    : StemsFrom text base spans
        (spans.foldl (Flattening.step text (text.size, base)) ⟨0, [], []⟩) := by
  induction spans using List.reverseRecOn with
  | nil => exact initial text base
  | append_singleton spans span ih =>
    rw [List.foldl_concat]
    exact ih.step span

end StemsFrom

end Flattening

theorem tiles_flatten_scopesFrom (text : Text) (spans : List Span) (base : ScopeStack)
    : Tiles text (ScopesFrom text base spans) 0 text.size (flatten text spans base) := by
  rcases Flattening.StemsFrom.keptByClosing.flatten (fun h => h.goOn.isBoundary.le_size)
    (Flattening.StemsFrom.foldl text base spans).bottom with ⟨runs, hruns, heq⟩
  rw [← heq]
  exact hruns.tiles

/-- Whatever the spans are like, all clamps have their bounds in the right order, as no span that
goes on ends before the cursor, and no piece is cut inside a character. The runs make up the text,
none of them is empty, and each has the default scopes or those of a span around it. -/
theorem flatten_partitions (text : Text) (spans : List Span) (base : ScopeStack)
    : flatten? text spans base = some (flatten text spans base)
      ∧ (∀ done, done <+: spans →
          let state := done.foldl (Flattening.step text (text.size, base)) ⟨0, [], []⟩
          ∀ entry ∈ state.opened ++ [(text.size, base)], state.cursor ≤ entry.1)
      ∧ (∀ run ∈ flatten text spans base, run.value ≠ [])
      ∧ (flatten text spans base).flatMap (·.value) = text
      ∧ ∀ before run after, flatten text spans base = before ++ run :: after →
          let start := Text.size (before.flatMap (·.value))
          ScopesFrom text base spans start (start + run.value.size) run.scopes := by
  have htiles := tiles_flatten_scopesFrom text spans base
  refine ⟨flatten?_eq text spans base, ?_, ?_, htiles.flatMap_value, ?_⟩
  . intro done _
    exact (Flattening.StemsFrom.foldl text base done).bottom.goOn.le
  . intro run hrun
    exact (htiles.exists_of_mem hrun).1
  . intro before run after hruns
    rw [hruns] at htiles
    have hscopes := htiles.holds_of_append
    rw [Nat.zero_add] at hscopes
    exact hscopes

example : flatten "éxy".toList [⟨["a"], 1, 3⟩, ⟨["b"], 2, 40⟩, ⟨["c"], 3, 2⟩] ["r"]
    = [⟨["a"], "é".toList⟩, ⟨["b"], "x".toList⟩, ⟨["r"], "y".toList⟩] := by
  decide

end TextScopes
