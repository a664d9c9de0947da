import TextScopes.Proofs.Tokenizer.Step

/-!
This module contains where the spans of a text stem from. The scope on top of a span is one that a
rule gives to a candidate of its own, and if it is the scope of the whole rule, then the span starts
with the candidate.
-/

namespace TextScopes

/-- The scopes that a rule gives to parts of what it matches. -/
def Rule.partScopes (rule : Rule) : List String :=
  match rule.kind with
  | .matching _ captures => captures.entries.map (·.2)
  | .region region =>
    region.contentName.toList
      ++ (region.beginCaptures.entries.map (·.2) ++ region.endCaptures.entries.map (·.2))
  | _ => []

/-- Whether a rule gives the scope on top of a span, where it matches a candidate. -/
def Rule.Gives (rule : Rule) (c : Candidate) (span : Span) : Prop :=
  ∃ scope, span.scopes.head? = some scope
    ∧ ((rule.name = some scope ∧ span.start = c.start) ∨ scope ∈ rule.partScopes)

/-- Whether a span stems from one of the given candidates. -/
def Grammar.Stems (grammar : Grammar) (candidates : List Candidate) (span : Span) : Prop :=
  ∃ c ∈ candidates, ∃ rule, grammar.rule? c.rule = some rule ∧ rule.Gives c span

theorem eq_of_mem_spanOf {scopes : ScopeStack} {start stop : Nat} {span : Span}
    (h : span ∈ spanOf scopes start stop) : span = ⟨scopes, start, stop⟩ := by
  unfold spanOf at h
  split at h
  . exact List.mem_singleton.mp h
  . contradiction

theorem exists_name_of_mem {name : Option String} {scopes : ScopeStack} {start stop : Nat}
    {span : Span} (h : span ∈ if name.isSome then spanOf (pushScope name scopes) start stop else [])
    : ∃ scope, name = some scope ∧ span = ⟨scope :: scopes, start, stop⟩ := by
  cases name with
  | none => contradiction
  | some scope => exact ⟨scope, rfl, eq_of_mem_spanOf h⟩

theorem captureSpans.exists_scope_of_mem_go {c : Candidate} {base : ScopeStack} {placed : List Span}
    {entries : List (Nat × String)} {span : Span} (h : span ∈ go c base placed entries)
    : ∃ scope ∈ entries.map (·.2), span.scopes.head? = some scope := by
  fun_induction go c base placed entries with
  | case1 => contradiction
  | case2 placed index scope rest hgroup ih
  | case3 placed index scope rest start stop hgroup hle ih =>
    rcases ih h with ⟨scope, hscope, hhead⟩
    exact ⟨scope, List.mem_cons_of_mem _ hscope, hhead⟩
  | case4 placed index scope rest start stop hgroup hlt parent first ih =>
    rcases List.mem_cons.mp h with rfl | h
    . exact ⟨scope, List.mem_cons_self, rfl⟩
    . rcases ih h with ⟨scope, hscope, hhead⟩
      exact ⟨scope, List.mem_cons_of_mem _ hscope, hhead⟩

theorem exists_scope_of_mem_captureSpans {c : Candidate} {captures : CaptureMap} {base : ScopeStack}
    {span : Span} (h : span ∈ captureSpans c captures base)
    : ∃ scope ∈ captures.entries.map (·.2), span.scopes.head? = some scope :=
  captureSpans.exists_scope_of_mem_go h

theorem Rule.gives_of_mem_matchSpans {rule : Rule} {c : Candidate} {scopes : ScopeStack}
    {span : Span} (h : span ∈ matchSpans rule c scopes) : rule.Gives c span := by
  unfold matchSpans at h
  rcases List.mem_append.mp h with h | h
  . split at h
    . next regex captures hkind =>
      rcases exists_scope_of_mem_captureSpans h with ⟨scope, hscope, hhead⟩
      refine ⟨scope, hhead, Or.inr ?_⟩
      unfold partScopes
      rw [hkind]
      exact hscope
    . contradiction
  . rcases exists_name_of_mem h with ⟨scope, hname, rfl⟩
    exact ⟨scope, rfl, Or.inl ⟨hname, rfl⟩⟩

namespace Grammar

variable {grammar : Grammar} {candidates : List Candidate}

theorem stems_of_mem_spans {scopes : ScopeStack} {c : Candidate} {frame : Frame}
    (hc : c ∈ candidates) (hframe : grammar.openFrame? scopes c = some frame) {textSize : Nat}
    {closing : Option Candidate} {span : Span} (h : span ∈ frame.spans textSize closing)
    : grammar.Stems candidates span := by
  unfold openFrame? at hframe
  rcases Option.bind_eq_some_iff.mp hframe with ⟨rule, hrule, hframe⟩
  rcases Option.bind_eq_some_iff.mp hframe with ⟨region, hregion, hframe⟩
  cases hframe
  refine ⟨c, hc, rule, hrule, ?_⟩
  have hparts : rule.partScopes = region.contentName.toList
      ++ (region.beginCaptures.entries.map (·.2) ++ region.endCaptures.entries.map (·.2)) := by
    unfold Rule.region? at hregion
    unfold Rule.partScopes
    split at hregion
    . next hkind =>
      cases hregion
      rw [hkind]
    . contradiction
  have hpart {scope : String} (hhead : span.scopes.head? = some scope)
      (hscope : scope ∈ region.contentName.toList
        ++ (region.beginCaptures.entries.map (·.2) ++ region.endCaptures.entries.map (·.2)))
      : rule.Gives c span :=
    ⟨scope, hhead, Or.inr (hparts ▸ hscope)⟩
  -- its content, the groups of the opening and of the closing match, and the region itself
  unfold Frame.spans at h
  dsimp only at h
  simp only [List.mem_append] at h
  rcases h with ((h | h) | h) | h
  . rcases exists_name_of_mem h with ⟨scope, hname, rfl⟩
    exact hpart rfl (by simp [hname])
  . rcases exists_scope_of_mem_captureSpans h with ⟨scope, hscope, hhead⟩
    exact hpart hhead (List.mem_append_right _ (List.mem_append_left _ hscope))
  . cases closing with
    | none => contradiction
    | some last =>
      rcases exists_scope_of_mem_captureSpans h with ⟨scope, hscope, hhead⟩
      exact hpart hhead (List.mem_append_right _ (List.mem_append_right _ hscope))
  . rcases exists_name_of_mem h with ⟨scope, hname, rfl⟩
    exact ⟨scope, rfl, Or.inl ⟨hname, rfl⟩⟩

/-- Whether all spans stem from candidates, those of the open regions included. -/
structure IsStemmed (grammar : Grammar) (candidates : List Candidate) (textSize : Nat)
    (pass : Pass) : Prop where
  spans : ∀ spans ∈ pass.spans, ∀ span ∈ spans, grammar.Stems candidates span
  frames : ∀ frame ∈ pass.frames, ∀ closing, ∀ span ∈ frame.spans textSize closing,
    grammar.Stems candidates span

variable {textSize : Nat} {pass : Pass}

theorem IsStemmed.step (h : grammar.IsStemmed candidates textSize pass) {c : Candidate}
    (hc : c ∈ candidates)
    : grammar.IsStemmed candidates textSize (grammar.step textSize pass c) := by
  have hsteps := grammar.steps_step textSize pass c
  generalize grammar.step textSize pass c = next at *
  cases hsteps with
  | skip => exact h
  | close hle hframes hcloses =>
    have hframe := h.frames
    rw [hframes, List.forall_mem_cons] at hframe
    exact ⟨List.forall_mem_cons.mpr ⟨hframe.1 (some c), h.spans⟩, hframe.2⟩
  | token hle hphase hactive =>
    refine ⟨List.forall_mem_cons.mpr ⟨?_, h.spans⟩, h.frames⟩
    intro span hspan
    unfold tokenSpans at hspan
    cases hrule : grammar.rule? c.rule with
    | none =>
      rw [hrule] at hspan
      contradiction
    | some rule =>
      rw [hrule] at hspan
      exact ⟨c, hc, rule, hrule, Rule.gives_of_mem_matchSpans hspan⟩
  | opening hle hphase hactive hframe =>
    refine ⟨h.spans, List.forall_mem_cons.mpr ⟨?_, h.frames⟩⟩
    exact fun closing span hspan => stems_of_mem_spans hc hframe hspan

theorem IsStemmed.foldl (h : grammar.IsStemmed candidates textSize pass) {stream : List Candidate}
    (hstream : ∀ c ∈ stream, c ∈ candidates)
    : grammar.IsStemmed candidates textSize (stream.foldl (grammar.step textSize) pass) := by
  induction stream generalizing pass with
  | nil => exact h
  | cons c stream ih =>
    rw [List.forall_mem_cons] at hstream
    exact ih (h.step hstream.1) hstream.2

/-- Every span of a text stems from a candidate in the text. -/
theorem stems_of_mem_tokenize {text : Text} {span : Span} (h : span ∈ grammar.tokenize text)
    : grammar.Stems (grammar.scan text) span := by
  have hpass : grammar.IsStemmed (grammar.scan text) text.size ⟨0, [], []⟩ := ⟨nofun, nofun⟩
  replace hpass := hpass.foldl fun c hc => hc
  unfold tokenize passSpans at h
  rw [List.mem_mergeSort, List.mem_flatten] at h
  rcases h with ⟨spans, hspans, hspan⟩
  rcases List.mem_append.mp hspans with hspans | hspans
  . exact hpass.spans spans (List.mem_reverse.mp hspans) span hspan
  . rcases List.mem_map.mp hspans with ⟨frame, hframe, rfl⟩
    exact hpass.frames frame hframe none span hspan

end Grammar

end TextScopes
