import TextScopes.Proofs.Tokenizer.Level
import TextScopes.Proofs.Tokenizer.Spans

/-!
This module contains the refinement of the recursion over the levels of nesting by the pass over the
candidates. What the pass completes from some place on is what the recursion finds at the level of
the innermost open region, followed by what the pass completes from the candidate that closes it.
-/

namespace TextScopes

theorem wordSpans_perm (rule : Rule) (scopes : ScopeStack) (c : Candidate)
    : (wordSpans rule scopes c).Perm (matchSpans rule c scopes) := by
  unfold wordSpans matchSpans
  cases rule.kind with
  | matching regex captures => exact List.perm_append_comm
  | region region => simp
  | container patterns => simp
  | reference target => simp

namespace Grammar

/-- The spans that the pass completes from given candidates on, up to their order. -/
def completed (grammar : Grammar) (textSize : Nat) (frames : List Frame) (cursor : Nat)
    (candidates : List Candidate) : List Span :=
  let pass := candidates.foldl (grammar.step textSize) ⟨cursor, frames, []⟩
  pass.spans.flatten ++ pass.frames.flatMap (·.spans textSize none)

/-- The spans that the pass completes from the candidate on that closes the innermost region. -/
def resumed (grammar : Grammar) (textSize : Nat) (stream : List Candidate) (frames : List Frame)
    (stop : Nat) : List Span :=
  match stream[stop]?, frames with
  | some c, frame :: frames =>
    frame.spans textSize (some c) ++
      grammar.completed textSize frames c.stop (stream.drop (stop + 1))
  | _, _ => frames.flatMap (·.spans textSize none)

/-- Whether the pass completes, from a cursor and an index on, the spans of a level and then what it
completes from the candidate on that closes the level. -/
def Simulates (grammar : Grammar) (textSize : Nat) (stream : List Candidate) (frames : List Frame)
    (cursor index : Nat) (level : List Span × Nat) : Prop :=
  (grammar.completed textSize frames cursor (stream.drop index)).Perm
    (level.1 ++ grammar.resumed textSize stream frames level.2)

/-- Whether given regions are open where a level of nesting is read. -/
structure AtLevel (grammar : Grammar) (frames : List Frame) (active : ActiveSet)
    (scopes : ScopeStack) (enclosing : Option RuleId) : Prop where
  active : ∀ id, (grammar.activeIn frames).any (·.contains id) = active.contains id
  scopes : grammar.scopesIn frames = scopes
  enclosing : frames.head?.map (·.rule) = enclosing

def frameOf (grammar : Grammar) (scopes : ScopeStack) (c : Candidate) (rule : Rule)
    (region : Region) : Frame where
  rule := c.rule
  name := rule.name
  region := region
  opening := c
  children := grammar.resolution.region? c.rule
  outer := pushScope rule.name scopes
  inner := pushScope region.contentName (pushScope rule.name scopes)

section

variable {grammar : Grammar} {textSize cursor cursor' index : Nat} {frames frames' : List Frame}
  {frame : Frame} {stream candidates : List Candidate} {c closing : Candidate}
  {new spans : List (List Span)} {word region : List Span} {inside level : List Span × Nat}

theorem step_append (new spans : List (List Span)) (c : Candidate)
    : grammar.step textSize ⟨cursor, frames, new ++ spans⟩ c
        =
      let pass := grammar.step textSize ⟨cursor, frames, new⟩ c
      ⟨pass.cursor, pass.frames, pass.spans ++ spans⟩ := by
  unfold step
  dsimp only
  split
  . rfl
  . split
    . cases frames with
      | nil => rfl
      | cons frame frames => rfl
    . split
      . cases c.phase with
        | closing => rfl
        | matching => rfl
        | opening =>
          dsimp only
          split
          . rfl
          . rfl
      . rfl

theorem foldl_step_append (grammar : Grammar) (textSize cursor : Nat) (frames : List Frame)
    (new spans : List (List Span)) (candidates : List Candidate)
    : candidates.foldl (grammar.step textSize) ⟨cursor, frames, new ++ spans⟩
        =
      let pass := candidates.foldl (grammar.step textSize) ⟨cursor, frames, new⟩
      ⟨pass.cursor, pass.frames, pass.spans ++ spans⟩ := by
  induction candidates generalizing cursor frames new with
  | nil => rfl
  | cons c candidates ih =>
    rw [List.foldl_cons, List.foldl_cons, step_append]
    dsimp only
    rw [ih]

theorem completed_cons
    (h : grammar.step textSize ⟨cursor, frames, []⟩ c = ⟨cursor', frames', new⟩)
    : (grammar.completed textSize frames cursor (c :: candidates)).Perm
        (new.flatten ++ grammar.completed textSize frames' cursor' candidates) := by
  unfold completed
  rw [List.foldl_cons, h]
  have hnew := foldl_step_append grammar textSize cursor' frames' [] new candidates
  rw [List.nil_append] at hnew
  rw [hnew]
  dsimp only
  rw [List.flatten_append]
  grind

theorem completed_drop (hc : stream[index]? = some c)
    (h : grammar.step textSize ⟨cursor, frames, []⟩ c = ⟨cursor', frames', new⟩)
    : (grammar.completed textSize frames cursor (stream.drop index)).Perm
        (new.flatten ++ grammar.completed textSize frames' cursor' (stream.drop (index + 1))) := by
  rcases List.getElem?_eq_some_iff.mp hc with ⟨hlt, heq⟩
  rw [List.drop_eq_getElem_cons hlt, heq]
  exact completed_cons h

theorem resumed_nil : grammar.resumed textSize stream [] index = [] := by
  unfold resumed
  split
  . contradiction
  . rfl

theorem resumed_of_none (hstop : stream[index]? = none)
    : grammar.resumed textSize stream frames index = frames.flatMap (·.spans textSize none) := by
  unfold resumed
  rw [hstop]

theorem resumed_of_some (hstop : stream[index]? = some c)
    : grammar.resumed textSize stream (frame :: frames) index
        =
      frame.spans textSize (some c) ++
        grammar.completed textSize frames c.stop (stream.drop (index + 1)) := by
  unfold resumed
  rw [hstop]

namespace Simulates

theorem done (hc : stream[index]? = none)
    : grammar.Simulates textSize stream frames cursor index ([], index) := by
  unfold Simulates completed
  rw [List.drop_of_length_le (List.getElem?_eq_none_iff.mp hc), resumed_of_none hc]
  rfl

theorem close (hc : stream[index]? = some c) (hle : cursor ≤ c.start) (hcloses : Closes frames c)
    : grammar.Simulates textSize stream frames cursor index ([], index) := by
  cases frames with
  | nil => cases hcloses.2
  | cons frame frames =>
    have hstep : grammar.step textSize ⟨cursor, frame :: frames, []⟩ c = _ :=
      step_of_closes hle hcloses
    unfold Simulates
    rw [resumed_of_some hc]
    simpa using completed_drop hc hstep

theorem skip (h : grammar.Simulates textSize stream frames cursor (index + 1) level)
    (hc : stream[index]? = some c)
    (hstep : grammar.step textSize ⟨cursor, frames, []⟩ c = ⟨cursor, frames, []⟩)
    : grammar.Simulates textSize stream frames cursor index level := by
  exact (completed_drop hc hstep).trans h

theorem token (h : grammar.Simulates textSize stream frames c.stop (index + 1) level)
    (hc : stream[index]? = some c)
    (hstep : grammar.step textSize ⟨cursor, frames, []⟩ c = ⟨c.stop, frames, new⟩)
    (hword : new.flatten.Perm word)
    : grammar.Simulates textSize stream frames cursor index (word ++ level.1, level.2) := by
  unfold Simulates at *
  apply (completed_drop hc hstep).trans
  rw [List.append_assoc]
  exact hword.append h

theorem unclosed (h : grammar.Simulates textSize stream (frame :: frames) c.stop (index + 1) inside)
    (hc : stream[index]? = some c)
    (hstep : grammar.step textSize ⟨cursor, frames, []⟩ c = ⟨c.stop, frame :: frames, []⟩)
    (hstop : stream[inside.2]? = none)
    (hregion : region.Perm (inside.1 ++ frame.spans textSize none))
    : grammar.Simulates textSize stream frames cursor index (region, inside.2) := by
  unfold Simulates at *
  rw [resumed_of_none hstop] at *
  apply (completed_drop hc hstep).trans
  apply h.trans
  rw [List.flatMap_cons, ← List.append_assoc]
  exact (hregion.append_right _).symm

theorem closed (h : grammar.Simulates textSize stream (frame :: frames) c.stop (index + 1) inside)
    (hc : stream[index]? = some c)
    (hstep : grammar.step textSize ⟨cursor, frames, []⟩ c = ⟨c.stop, frame :: frames, []⟩)
    (hstop : stream[inside.2]? = some closing)
    (hlevel : grammar.Simulates textSize stream frames closing.stop (inside.2 + 1) level)
    (hregion : region.Perm (inside.1 ++ frame.spans textSize (some closing)))
    : grammar.Simulates textSize stream frames cursor index (region ++ level.1, level.2) := by
  unfold Simulates at *
  rw [resumed_of_some hstop] at h
  apply (completed_drop hc hstep).trans
  apply h.trans
  rw [← List.append_assoc, List.append_assoc region]
  exact hregion.symm.append hlevel

end Simulates

theorem atLevel_root (grammar : Grammar)
    : grammar.AtLevel [] grammar.resolution.root grammar.rootScopes none := by
  exact ⟨by simp [activeIn], rfl, rfl⟩

theorem atLevel_frameOf (grammar : Grammar) (frames : List Frame) (scopes : ScopeStack)
    (c : Candidate) (rule : Rule) (region : Region)
    : grammar.AtLevel (grammar.frameOf scopes c rule region :: frames)
        ((grammar.resolution.region? c.rule).getD ⟨[]⟩)
        (pushScope region.contentName (pushScope rule.name scopes)) (some c.rule) := by
  refine ⟨?_, rfl, rfl⟩
  intro id
  unfold activeIn frameOf
  cases grammar.resolution.region? c.rule with
  | none => simp [ActiveSet.contains]
  | some children => simp

theorem openFrame?_eq_map (scopes : ScopeStack) (c : Candidate)
    : grammar.openFrame? scopes c
        =
      ((grammar.rule? c.rule).bind fun rule => rule.region?.map (rule, ·)).map
        fun found => grammar.frameOf scopes c found.1 found.2 := by
  unfold openFrame?
  cases grammar.rule? c.rule with
  | none => rfl
  | some rule =>
    cases h : rule.region? with
    | none => simp [h]
    | some region => simp [h, frameOf]

theorem tokenSpans_perm (scopes : ScopeStack) (c : Candidate)
    : (grammar.tokenSpans scopes c).Perm
        (((grammar.rule? c.rule).map (wordSpans · scopes c)).getD []) := by
  unfold tokenSpans
  cases grammar.rule? c.rule with
  | none => exact List.Perm.nil
  | some rule => exact (wordSpans_perm rule scopes c).symm

theorem regionSpans_perm (scopes : ScopeStack) (c : Candidate) (rule : Rule) (region : Region)
    (closing : Option Candidate) (inside : List Span)
    : (regionSpans textSize rule region scopes c closing inside).Perm
        (inside ++ (grammar.frameOf scopes c rule region).spans textSize closing) := by
  unfold regionSpans Frame.spans frameOf
  grind

end

theorem simulates_tokenizeLevel {grammar : Grammar} (textSize : Nat) (stream : List Candidate)
    {frames : List Frame} (cursor index : Nat) {active : ActiveSet} {scopes : ScopeStack}
    {enclosing : Option RuleId} (hlevel : grammar.AtLevel frames active scopes enclosing)
    : grammar.Simulates textSize stream frames cursor index
        (grammar.tokenizeLevel textSize stream active scopes enclosing cursor index).1 := by
  unfold tokenizeLevel
  split
  . next hc => exact Simulates.done hc
  . next c hc =>
    have hlt : index < stream.length := (List.getElem?_eq_some_iff.mp hc).1
    have hskip := (simulates_tokenizeLevel textSize stream cursor (index + 1) hlevel).skip hc
    dsimp only
    split
    -- the cases are those of the recursion, and the pass does the same step in each
    . next hbehind => exact hskip (step_of_lt hbehind)
    . next hbehind =>
      have hle := Nat.not_lt.mp hbehind
      split
      . next hcloses =>
        rw [← hlevel.enclosing] at hcloses
        exact Simulates.close hc hle hcloses
      . next hcloses =>
        rw [← hlevel.enclosing] at hcloses
        split
        . next hactive =>
          rw [← hlevel.active c.rule, Bool.not_eq_true'] at hactive
          exact hskip (step_of_inactive hle hcloses (Bool.eq_false_iff.mp hactive))
        . next hactive =>
          rw [← hlevel.active c.rule, Bool.not_eq_true', Bool.not_eq_false] at hactive
          split
          . next hphase => exact hskip (step_of_stray hle hcloses hphase)
          . next hphase =>
            have hstep : grammar.step textSize ⟨cursor, frames, []⟩ c = _ :=
              step_of_matching hle hactive hphase
            rw [hlevel.scopes] at hstep
            have hrest := simulates_tokenizeLevel textSize stream c.stop (index + 1) hlevel
            apply hrest.token hc hstep
            simpa using tokenSpans_perm scopes c
          . next hphase =>
            have hstep : grammar.step textSize ⟨cursor, frames, []⟩ c = _ :=
              step_of_opening hle hactive hphase
            rw [hlevel.scopes, openFrame?_eq_map] at hstep
            split
            . next hfound =>
              rw [hfound] at hstep
              exact hskip hstep
            . next rule region hfound =>
              rw [hfound] at hstep
              have hinside := simulates_tokenizeLevel textSize stream c.stop (index + 1)
                (atLevel_frameOf grammar frames scopes c rule region)
              -- the level around goes on where the level inside says that it ends
              generalize grammar.tokenizeLevel textSize stream _ _ (some c.rule) c.stop (index + 1)
                = inside at hinside ⊢
              have hforward := inside.2
              split
              . next hstop =>
                exact hinside.unclosed hc hstep hstop (regionSpans_perm scopes c rule region none _)
              . next closing hstop =>
                apply hinside.closed hc hstep hstop _ (regionSpans_perm scopes c rule region _ _)
                exact simulates_tokenizeLevel textSize stream closing.stop _ hlevel
termination_by stream.length - index

theorem passSpans_perm_tokenizeLevels (grammar : Grammar) (text : Text)
    : (grammar.passSpans text.size (grammar.scan text)).Perm (grammar.tokenizeLevels text) := by
  have hroot := simulates_tokenizeLevel text.size (grammar.scan text) 0 0 (atLevel_root grammar)
  have hpass : (grammar.passSpans text.size (grammar.scan text)).Perm
      (grammar.completed text.size [] 0 (grammar.scan text)) := by
    unfold passSpans completed
    dsimp only
    rw [List.flatten_append, ← List.flatMap_def]
    exact (List.reverse_perm _).flatten.append_right _
  apply hpass.trans
  apply hroot.trans
  rw [resumed_nil, List.append_nil]
  rfl

/-- The recursion reads all candidates, and sorting its spans, in whatever order they come, gives
the spans of the text. -/
theorem tokenize_refines_levels {source : GrammarSource} {grammar : Grammar}
    (h : source.build = .ok grammar) (text : Text)
    : (grammar.tokenizeLevel text.size (grammar.scan text) grammar.resolution.root
        grammar.rootScopes none 0 0).1.2 = (grammar.scan text).length
      ∧ ∀ emitted : List Span, emitted.Perm (grammar.tokenizeLevels text) →
          emitted.mergeSort Span.le = grammar.tokenize text := by
  refine ⟨?_, ?_⟩
  . rcases endsLevel_tokenizeLevel grammar text.size grammar.resolution.root grammar.rootScopes none
      0 (Nat.zero_le (grammar.scan text).length) with hstop | ⟨c, -, -, henclosing⟩
    . exact hstop
    . contradiction
  . intro emitted hperm
    apply (layered_emitted h text).mergeSort_eq_of_perm
    exact hperm.trans (passSpans_perm_tokenizeLevels grammar text).symm

theorem tokenize_refines_levels_list
    : ∃ grammar, listSource.build = .ok grammar ∧
        (grammar.tokenizeLevels "[[x]x".toList).mergeSort Span.le
          =
        grammar.tokenize "[[x]x".toList := by
  rcases exists_build_listSource with ⟨grammar, h⟩
  exact ⟨grammar, h, (tokenize_refines_levels h "[[x]x".toList).2 _ (List.Perm.refl _)⟩

end Grammar

end TextScopes
