import TextScopes.Proofs.Span.Order
import TextScopes.Proofs.Tokenizer.Captures
import TextScopes.Proofs.Tokenizer.Step

/-!
This module contains the invariant of the pass over the candidates. The spans found so far fall into
layers, one for each open region and one around them: the layer of a region begins behind what
opened the region and ends at the cursor or where the next region begins. What a candidate adds goes
on top of the innermost layer, and closing a region turns its layer into a part of the next one.
-/

namespace TextScopes

theorem layered_matchSpans {text : Text} {rule : Rule} {c : Candidate} (scopes : ScopeStack)
    (hc : c.hit.IsSound text)
    : Layered text c.start c.stop scopes (matchSpans rule c scopes) := by
  unfold matchSpans
  apply Layered.named _ hc.isBoundary_start hc.isBoundary_stop
  split
  . exact layered_captureSpans _ _ hc
  . exact Layered.nil

theorem perm_around (inside content atBegin atEnd : List Span)
    : (atBegin ++ ((inside ++ content) ++ atEnd)).Perm
        (inside ++ (content ++ atBegin ++ atEnd)) := by
  grind

/-- Whether a frame stands on given scopes and was opened by a match. -/
structure Frame.IsSound (text : Text) (scopes : ScopeStack) (frame : Frame) : Prop where
  outer : frame.outer = pushScope frame.name scopes
  inner : frame.inner = pushScope frame.region.contentName frame.outer
  opening : frame.opening.hit.IsSound text

namespace Frame.IsSound

variable {text : Text} {scopes : ScopeStack} {frame : Frame} {inside : List Span}

theorem layered_around (h : frame.IsSound text scopes) {contentStop stop : Nat} {atEnd : List Span}
    (hinside : Layered text frame.opening.stop contentStop frame.inner inside)
    (hatEnd : Layered text contentStop stop frame.outer atEnd)
    (hle : frame.opening.stop ≤ contentStop) (hle' : contentStop ≤ stop)
    (hcontentStop : text.IsBoundary contentStop) (hstop : text.IsBoundary stop)
    : Layered text frame.opening.start stop scopes
        (inside ++
          ((if frame.region.contentName.isSome then
              spanOf frame.inner frame.opening.stop contentStop else [])
            ++ captureSpans frame.opening frame.region.beginCaptures frame.outer ++ atEnd
            ++ if frame.name.isSome then spanOf frame.outer frame.opening.start stop else [])) := by
  have hbegin := layered_captureSpans frame.region.beginCaptures frame.outer h.opening
  have hopening : frame.opening.start ≤ frame.opening.stop := h.opening.le
  rw [h.inner] at hinside ⊢
  have hcontent := hinside.named h.opening.isBoundary_stop hcontentStop
  have hbody := hbegin.append (hcontent.append hatEnd hle hle') hopening (Nat.le_trans hle hle')
  have hbody := hbody.perm (perm_around _ _ _ _)
  rw [h.outer] at hbody ⊢
  have hwhole := hbody.named h.opening.isBoundary_start hstop
  simpa using hwhole

theorem layered_closed (h : frame.IsSound text scopes) {c : Candidate} (hc : c.hit.IsSound text)
    (hle : frame.opening.stop ≤ c.start)
    (hinside : Layered text frame.opening.stop c.start frame.inner inside)
    : Layered text frame.opening.start c.stop scopes
        (inside ++ frame.spans text.size (some c)) := by
  have hatEnd := layered_captureSpans frame.region.endCaptures frame.outer hc
  exact h.layered_around hinside hatEnd hle hc.le hc.isBoundary_start hc.isBoundary_stop

theorem layered_unclosed (h : frame.IsSound text scopes) (hle : frame.opening.stop ≤ text.size)
    (hinside : Layered text frame.opening.stop text.size frame.inner inside)
    : Layered text frame.opening.start text.size scopes
        (inside ++ frame.spans text.size none) := by
  exact h.layered_around hinside Layered.nil hle (Nat.le_refl _) text.isBoundary_size
    text.isBoundary_size

end Frame.IsSound

namespace Grammar

variable {grammar : Grammar} {text : Text} {frames : List Frame} {cursor start stop : Nat}
  {spans new : List Span}

/-- Whether spans fall into the layers of some open regions, up to a cursor. -/
inductive Layers (grammar : Grammar) (text : Text) : List Frame → Nat → List Span → Prop
  | outside {cursor : Nat} {spans : List Span}
    (hspans : Layered text 0 cursor grammar.rootScopes spans) : Layers grammar text [] cursor spans
  | inside {frame : Frame} {frames : List Frame} {cursor : Nat} {before spans : List Span}
    (hbefore : Layers grammar text frames frame.opening.start before)
    (hframe : frame.IsSound text (grammar.scopesIn frames)) (hle : frame.opening.stop ≤ cursor)
    (hspans : Layered text frame.opening.stop cursor frame.inner spans)
    : Layers grammar text (frame :: frames) cursor (before ++ spans)

namespace Layers

theorem add (h : Layers grammar text frames cursor spans) (hstart : cursor ≤ start)
    (hstop : start ≤ stop) (hnew : Layered text start stop (grammar.scopesIn frames) new)
    : Layers grammar text frames stop (spans ++ new) := by
  have hnew := hnew.mono hstart (Nat.le_refl stop) (List.suffix_refl _)
  cases h with
  | outside hspans =>
    exact outside (hspans.append hnew (Nat.zero_le _) (Nat.le_trans hstart hstop))
  | inside hbefore hframe hle hspans =>
    rw [List.append_assoc]
    apply inside hbefore hframe (by omega)
    exact hspans.append hnew hle (by omega)

theorem advance (h : Layers grammar text frames cursor spans) (hle : cursor ≤ stop)
    : Layers grammar text frames stop spans := by
  simpa using h.add hle (Nat.le_refl stop) Layered.nil

theorem close {frame : Frame} {c : Candidate}
    (h : Layers grammar text (frame :: frames) cursor spans) (hc : c.hit.IsSound text)
    (hle : cursor ≤ c.start)
    : Layers grammar text frames c.stop (spans ++ frame.spans text.size (some c)) := by
  cases h.advance hle with
  | inside hbefore hframe hle hspans =>
    -- what was the innermost layer is now a part of the one around it
    have hregion := hframe.layered_closed hc hle hspans
    rw [List.append_assoc]
    apply hbefore.add (Nat.le_refl _) _ hregion
    have hopening : frame.opening.start ≤ frame.opening.stop := hframe.opening.le
    have hclosing : c.start ≤ c.stop := hc.le
    omega

theorem layered_unclosed (h : Layers grammar text frames cursor spans) (hle : cursor ≤ text.size)
    : Layered text 0 text.size grammar.rootScopes
        (spans ++ frames.flatMap (·.spans text.size none)) := by
  induction frames generalizing cursor spans with
  | nil =>
    cases h.advance hle with
    | outside hspans => simpa using hspans
  | cons frame frames ih =>
    cases h.advance hle with
    | inside hbefore hframe hle hspans =>
      have hregion := hframe.layered_unclosed hle hspans
      have hopening : frame.opening.start ≤ frame.opening.stop := hframe.opening.le
      have hrest := ih (hbefore.add (Nat.le_refl _) (by omega) hregion) (Nat.le_refl _)
      simpa using hrest

end Layers

/-- The invariant of the pass. -/
structure IsNested (grammar : Grammar) (text : Text) (pass : Pass) : Prop where
  le : pass.cursor ≤ text.size
  layers : ∃ spans, spans.Perm pass.spans.flatten
    ∧ Layers grammar text pass.frames pass.cursor spans

theorem isNested_initial (grammar : Grammar) (text : Text) : grammar.IsNested text ⟨0, [], []⟩ := by
  exact ⟨Nat.zero_le _, [], List.Perm.nil, Layers.outside Layered.nil⟩

theorem isSound_of_openFrame? {scopes : ScopeStack} {c : Candidate} {frame : Frame}
    (hc : c.hit.IsSound text) (h : grammar.openFrame? scopes c = some frame)
    : frame.opening = c ∧ frame.IsSound text scopes := by
  rcases Option.bind_eq_some_iff.mp h with ⟨rule, hrule, h⟩
  rcases Option.bind_eq_some_iff.mp h with ⟨region, hregion, heq⟩
  cases heq
  exact ⟨rfl, rfl, rfl, hc⟩

theorem layered_tokenSpans (grammar : Grammar) {c : Candidate} (scopes : ScopeStack)
    (hc : c.hit.IsSound text)
    : Layered text c.start c.stop scopes (grammar.tokenSpans scopes c) := by
  unfold tokenSpans
  cases hrule : grammar.rule? c.rule with
  | none => apply Layered.nil
  | some rule => exact layered_matchSpans scopes hc

/-- Every step of the pass keeps the invariant. -/
theorem IsNested.step {pass : Pass} {c : Candidate} (h : grammar.IsNested text pass)
    (hc : c.hit.IsSound text)
    : grammar.IsNested text (grammar.step text.size pass c) := by
  rcases h.layers with ⟨spans, hperm, hlayers⟩
  have hstop : c.stop ≤ text.size := hc.isBoundary_stop.le_size
  have hsteps := steps_step grammar text.size pass c
  generalize grammar.step text.size pass c = next at hsteps
  cases hsteps with
  | skip => exact h
  | @close frame frames hle hframes =>
    rw [hframes] at hlayers
    refine ⟨hstop, spans ++ frame.spans text.size (some c), ?_, hlayers.close hc hle⟩
    rw [List.flatten_cons]
    exact (hperm.append_right _).trans List.perm_append_comm
  | token hle =>
    have hnew := grammar.layered_tokenSpans (grammar.scopesIn pass.frames) hc
    refine ⟨hstop, spans ++ grammar.tokenSpans (grammar.scopesIn pass.frames) c, ?_,
      hlayers.add hle hc.le hnew⟩
    rw [List.flatten_cons]
    exact (hperm.append_right _).trans List.perm_append_comm
  | opening hle _ _ hframe =>
    rcases isSound_of_openFrame? hc hframe with ⟨rfl, hsound⟩
    refine ⟨hstop, spans ++ [], by simpa using hperm, ?_⟩
    exact Layers.inside (hlayers.advance hle) hsound (Nat.le_refl _) Layered.nil

theorem IsNested.foldl {pass : Pass} {candidates : List Candidate} (h : grammar.IsNested text pass)
    (hcandidates : ∀ c ∈ candidates, c.hit.IsSound text)
    : grammar.IsNested text (candidates.foldl (grammar.step text.size) pass) := by
  induction candidates generalizing pass with
  | nil => exact h
  | cons c candidates ih =>
    rw [List.foldl_cons]
    apply ih
    . exact h.step (hcandidates c List.mem_cons_self)
    . intro c' hc'
      exact hcandidates c' (List.mem_cons_of_mem c hc')

theorem layered_passSpans {candidates : List Candidate}
    (hcandidates : ∀ c ∈ candidates, c.hit.IsSound text)
    : Layered text 0 text.size grammar.rootScopes (grammar.passSpans text.size candidates) := by
  have h := (isNested_initial grammar text).foldl hcandidates
  rcases h.layers with ⟨spans, hperm, hlayers⟩
  apply (hlayers.layered_unclosed h.le).perm
  unfold passSpans
  dsimp only
  rw [List.flatten_append, ← List.flatMap_def]
  apply List.Perm.append_right
  exact hperm.trans (List.reverse_perm _).symm.flatten

end Grammar

end TextScopes
