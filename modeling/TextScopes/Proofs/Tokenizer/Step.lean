import TextScopes.Tokenizer

/-!
This module contains what a step of the pass over the candidates does, case by case. A candidate is
skipped, or it closes the innermost region, or it matches at once, or it opens a region.
-/

namespace TextScopes.Grammar

def activeIn (grammar : Grammar) (frames : List Frame) : Option ActiveSet :=
  frames.head?.elim (some grammar.resolution.root) (·.children)

def scopesIn (grammar : Grammar) (frames : List Frame) : ScopeStack :=
  frames.head?.elim grammar.rootScopes (·.inner)

def tokenSpans (grammar : Grammar) (scopes : ScopeStack) (c : Candidate) : List Span :=
  ((grammar.rule? c.rule).map (matchSpans · c scopes)).getD []

/-- Whether a candidate closes the innermost of the given regions. -/
def Closes (frames : List Frame) (c : Candidate) : Prop :=
  c.phase = .closing ∧ frames.head?.map (·.rule) = some c.rule

variable {grammar : Grammar} {textSize cursor : Nat} {frames : List Frame} {frame : Frame}
  {spans : List (List Span)} {c : Candidate}

theorem step_of_lt (h : c.start < cursor)
    : grammar.step textSize ⟨cursor, frames, spans⟩ c = ⟨cursor, frames, spans⟩ := by
  unfold step
  rw [if_pos h]

theorem step_of_closes (h : cursor ≤ c.start) (hcloses : Closes (frame :: frames) c)
    : grammar.step textSize ⟨cursor, frame :: frames, spans⟩ c
        =
      ⟨c.stop, frames, frame.spans textSize (some c) :: spans⟩ := by
  unfold Closes at hcloses
  unfold step
  rw [if_neg (Nat.not_lt.mpr h)]
  dsimp only
  rw [if_pos hcloses]

theorem step_of_inactive (h : cursor ≤ c.start) (hcloses : ¬ Closes frames c)
    (hactive : ¬ (grammar.activeIn frames).any (·.contains c.rule))
    : grammar.step textSize ⟨cursor, frames, spans⟩ c = ⟨cursor, frames, spans⟩ := by
  unfold Closes at hcloses
  unfold activeIn at hactive
  unfold step
  rw [if_neg (Nat.not_lt.mpr h)]
  dsimp only
  rw [if_neg hcloses, if_neg hactive]

theorem step_of_stray (h : cursor ≤ c.start) (hcloses : ¬ Closes frames c)
    (hphase : c.phase = .closing)
    : grammar.step textSize ⟨cursor, frames, spans⟩ c = ⟨cursor, frames, spans⟩ := by
  unfold Closes at hcloses
  unfold step
  rw [if_neg (Nat.not_lt.mpr h)]
  dsimp only
  rw [if_neg hcloses]
  split
  . rw [hphase]
  . rfl

theorem step_of_matching (h : cursor ≤ c.start)
    (hactive : (grammar.activeIn frames).any (·.contains c.rule)) (hphase : c.phase = .matching)
    : grammar.step textSize ⟨cursor, frames, spans⟩ c
        =
      ⟨c.stop, frames, grammar.tokenSpans (grammar.scopesIn frames) c :: spans⟩ := by
  have hcloses : ¬ (c.phase = .closing ∧ frames.head?.map (·.rule) = some c.rule) := by
    simp [hphase]
  unfold activeIn at hactive
  unfold step
  rw [if_neg (Nat.not_lt.mpr h)]
  dsimp only
  rw [if_neg hcloses, if_pos hactive, hphase]
  rfl

theorem step_of_opening (h : cursor ≤ c.start)
    (hactive : (grammar.activeIn frames).any (·.contains c.rule)) (hphase : c.phase = .opening)
    : grammar.step textSize ⟨cursor, frames, spans⟩ c
        =
      match grammar.openFrame? (grammar.scopesIn frames) c with
      | some frame => ⟨c.stop, frame :: frames, spans⟩
      | none => ⟨cursor, frames, spans⟩ := by
  have hcloses : ¬ (c.phase = .closing ∧ frames.head?.map (·.rule) = some c.rule) := by
    simp [hphase]
  unfold activeIn at hactive
  unfold step
  rw [if_neg (Nat.not_lt.mpr h)]
  dsimp only
  rw [if_neg hcloses, if_pos hactive, hphase]
  rfl

theorem openFrame?_eq_some {scopes : ScopeStack}
    (h : grammar.openFrame? scopes c = some frame)
    : frame.rule = c.rule ∧ frame.children = grammar.resolution.region? frame.rule
      ∧ (grammar.rule? frame.rule).bind Rule.region? = some frame.region := by
  unfold openFrame? at h
  rcases Option.bind_eq_some_iff.mp h with ⟨rule, hrule, h⟩
  rcases Option.bind_eq_some_iff.mp h with ⟨region, hregion, h⟩
  cases h
  exact ⟨rfl, rfl, by simp [hrule, hregion]⟩

/-- All that a step can do. -/
inductive Steps (grammar : Grammar) (textSize : Nat) (pass : Pass) (c : Candidate) : Pass → Prop
  | skip : Steps grammar textSize pass c pass
  | close {frame : Frame} {frames : List Frame} (hle : pass.cursor ≤ c.start)
    (hframes : pass.frames = frame :: frames) (hcloses : Closes pass.frames c)
    : Steps grammar textSize pass c
        ⟨c.stop, frames, frame.spans textSize (some c) :: pass.spans⟩
  | token (hle : pass.cursor ≤ c.start) (hphase : c.phase = .matching)
    (hactive : (grammar.activeIn pass.frames).any (·.contains c.rule))
    : Steps grammar textSize pass c
        ⟨c.stop, pass.frames,
          grammar.tokenSpans (grammar.scopesIn pass.frames) c :: pass.spans⟩
  | opening {frame : Frame} (hle : pass.cursor ≤ c.start) (hphase : c.phase = .opening)
    (hactive : (grammar.activeIn pass.frames).any (·.contains c.rule))
    (hframe : grammar.openFrame? (grammar.scopesIn pass.frames) c = some frame)
    : Steps grammar textSize pass c ⟨c.stop, frame :: pass.frames, pass.spans⟩

theorem steps_step (grammar : Grammar) (textSize : Nat) (pass : Pass) (c : Candidate)
    : grammar.Steps textSize pass c (grammar.step textSize pass c) := by
  rcases pass with ⟨cursor, frames, spans⟩
  by_cases hlt : c.start < cursor
  . rw [step_of_lt hlt]
    exact Steps.skip
  . have hle := Nat.not_lt.mp hlt
    by_cases hcloses : Closes frames c
    . cases frames with
      | nil => cases hcloses.2
      | cons frame frames =>
        rw [step_of_closes hle hcloses]
        exact Steps.close hle rfl hcloses
    . by_cases hactive : (grammar.activeIn frames).any (·.contains c.rule)
      . cases hphase : c.phase with
        | closing =>
          rw [step_of_stray hle hcloses hphase]
          exact Steps.skip
        | matching =>
          rw [step_of_matching hle hactive hphase]
          exact Steps.token hle hphase hactive
        | opening =>
          rw [step_of_opening hle hactive hphase]
          split
          . next frame hframe => exact Steps.opening hle hphase hactive hframe
          . exact Steps.skip
      . rw [step_of_inactive hle hcloses hactive]
        exact Steps.skip

end TextScopes.Grammar
