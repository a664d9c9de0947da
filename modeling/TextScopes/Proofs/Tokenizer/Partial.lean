import TextScopes.Proofs.Grammar.Indexed
import TextScopes.Proofs.Partial
import TextScopes.Proofs.Regex.Restart
import TextScopes.Proofs.Stream
import TextScopes.Proofs.Tokenizer.Step

/-!
This module contains the scan and the pass over its candidates with their partial operations: a rule
is looked up by its number, the search for matches restarts at a slice of the text, and the lengths
of candidates are differences. All of this is defined if the numbers in the grammar are numbers of
its rules.
-/

namespace TextScopes

def Candidate.length? (c : Candidate) : Option Nat := sub? c.stop c.start

def Rule.candidates? (rule : Rule) (id : RuleId) (text : Text) : Option (List Candidate) :=
  match rule.kind with
  | .matching regex _ => do
    let hits ← regex.search? text
    some (hits.map (⟨id, .matching, ·⟩))
  | .region region => do
    let openings ← region.opening.search? text
    let closings ← region.closing.search? text
    some (openings.map (⟨id, .opening, ·⟩) ++ closings.map (⟨id, .closing, ·⟩))
  | _ => some []

namespace Grammar

def scan? (grammar : Grammar) (text : Text) : Option (List Candidate) := do
  let found ← grammar.resolution.scanOrder.mapM fun id => do
    let rule ← grammar.rule? id
    rule.candidates? id text
  -- the order compares the lengths of all candidates
  let _ ← found.flatten.mapM Candidate.length?
  some (found.flatten.mergeSort Candidate.le)

/-- The spans of a region, whose rule is looked up again for its name. -/
def close? (grammar : Grammar) (textSize : Nat) (frame : Frame) (closing : Option Candidate) :
    Option (List Span) := do
  let rule ← grammar.rule? frame.rule
  some ({ frame with name := rule.name }.spans textSize closing)

def step? (grammar : Grammar) (textSize : Nat) (pass : Pass) (candidate : Candidate) :
    Option Pass :=
  if candidate.start < pass.cursor then some pass
  else
    let top := pass.frames.head?
    if candidate.phase = .closing ∧ top.map (·.rule) = some candidate.rule then
      match pass.frames with
      | [] => some pass
      | frame :: frames => do
        let spans ← grammar.close? textSize frame (some candidate)
        some ⟨candidate.stop, frames, spans :: pass.spans⟩
    else
      let active := top.elim (some grammar.resolution.root) (·.children)
      let scopes := top.elim grammar.rootScopes (·.inner)
      if active.any (·.contains candidate.rule) then
        match candidate.phase with
        | .closing => some pass
        | .matching => do
          let rule ← grammar.rule? candidate.rule
          some { pass with
            cursor := candidate.stop, spans := matchSpans rule candidate scopes :: pass.spans }
        | .opening => do
          let _ ← grammar.rule? candidate.rule
          match grammar.openFrame? scopes candidate with
          | some frame =>
            some { pass with cursor := candidate.stop, frames := frame :: pass.frames }
          | none => some pass
      else some pass

def passSpans? (grammar : Grammar) (textSize : Nat) (candidates : List Candidate) :
    Option (List Span) := do
  let pass ← candidates.foldlM (grammar.step? textSize) ⟨0, [], []⟩
  let unclosed ← pass.frames.mapM fun frame => grammar.close? textSize frame none
  some (pass.spans.reverse ++ unclosed).flatten

def tokenize? (grammar : Grammar) (text : Text) : Option (List Span) := do
  let candidates ← grammar.scan? text
  let spans ← grammar.passSpans? text.size candidates
  some (spans.mergeSort Span.le)

end Grammar

theorem Rule.candidates?_eq (rule : Rule) (id : RuleId) (text : Text)
    : rule.candidates? id text = some (rule.candidates id text) := by
  rcases rule with ⟨name, kind⟩
  unfold candidates? candidates
  cases kind with
  | matching regex captures =>
    dsimp only
    rw [Regex.search?_eq]
    rfl
  | region region =>
    dsimp only
    rw [Regex.search?_eq, Regex.search?_eq]
    rfl
  | container patterns => rfl
  | reference target => rfl

namespace Grammar

variable {grammar : Grammar} {text : Text} {textSize : Nat} {c : Candidate} {pass : Pass}
  {frame : Frame}

theorem isPiece_of_mem_scan (h : c ∈ grammar.scan text)
    : c.start ≤ c.stop ∧ text.IsBoundary c.start ∧ text.IsBoundary c.stop := by
  rcases mem_scan_iff.mp h with ⟨-, rule, -, hc⟩
  rcases (Rule.mem_candidates_iff.mp hc).2 with ⟨regex, -, hhit⟩
  exact Regex.isPiece_of_mem_hits hhit

theorem scan?_eq (h : grammar.IsIndexed) (text : Text)
    : grammar.scan? text = some (grammar.scan text) := by
  have hfound : (grammar.resolution.scanOrder.mapM fun id => do
        let rule ← grammar.rule? id
        rule.candidates? id text)
      = some (grammar.resolution.scanOrder.map fun id =>
        ((grammar.rule? id).map (·.candidates id text)).getD []) := by
    apply mapM_eq_some
    intro id hid
    rcases exists_rule?_of_lt (h.scanOrder id hid) with ⟨rule, hrule⟩
    rw [hrule]
    exact rule.candidates?_eq id text
  have hlengths {found : List Candidate} (hscan : grammar.scan text = found.mergeSort Candidate.le)
      : found.mapM Candidate.length? = some (found.map Candidate.length) := by
    apply mapM_eq_some
    intro c hc
    have hc : c ∈ grammar.scan text := hscan ▸ List.mem_mergeSort.mpr hc
    exact sub?_eq_some (isPiece_of_mem_scan hc).1
  unfold scan?
  rw [hfound, Option.bind_eq_bind, Option.bind_some, ← List.flatMap_def, hlengths rfl]
  rfl

/-- Whether open regions have the names of the rules to which their numbers belong. -/
def IsNamed (grammar : Grammar) (frames : List Frame) : Prop :=
  ∀ frame ∈ frames, (grammar.rule? frame.rule).map (·.name) = some frame.name

theorem close?_eq (h : (grammar.rule? frame.rule).map (·.name) = some frame.name)
    (textSize : Nat) (closing : Option Candidate)
    : grammar.close? textSize frame closing = some (frame.spans textSize closing) := by
  rcases Option.map_eq_some_iff.mp h with ⟨rule, hrule, hname⟩
  unfold close?
  rw [hrule, Option.bind_eq_bind, Option.bind_some, hname]

theorem name_of_openFrame? {scopes : ScopeStack} (h : grammar.openFrame? scopes c = some frame)
    : (grammar.rule? frame.rule).map (·.name) = some frame.name := by
  unfold openFrame? at h
  rcases Option.bind_eq_some_iff.mp h with ⟨rule, hrule, h⟩
  rcases Option.bind_eq_some_iff.mp h with ⟨region, hregion, h⟩
  cases h
  dsimp only
  rw [hrule, Option.map_some]

theorem isNamed_step (hframes : grammar.IsNamed pass.frames)
    : grammar.IsNamed (grammar.step textSize pass c).frames := by
  have hsteps := grammar.steps_step textSize pass c
  generalize grammar.step textSize pass c = next at hsteps ⊢
  cases hsteps with
  | skip => exact hframes
  | close hle heq hcloses =>
    intro frame hframe
    exact hframes frame (heq ▸ List.mem_cons_of_mem _ hframe)
  | token hle hphase hactive => exact hframes
  | opening hle hphase hactive hopen =>
    intro frame hframe
    cases hframe with
    | head => exact name_of_openFrame? hopen
    | tail _ hframe => exact hframes frame hframe

theorem step?_eq (hframes : grammar.IsNamed pass.frames)
    (hc : ∃ rule, grammar.rule? c.rule = some rule)
    : grammar.step? textSize pass c = some (grammar.step textSize pass c) := by
  rcases hc with ⟨rule, hrule⟩
  unfold step? step
  split
  . rfl
  . dsimp only
    split
    . cases hpass : pass.frames with
      | nil => rfl
      | cons frame frames =>
        have hname := hframes frame (hpass ▸ List.mem_cons_self)
        dsimp only
        rw [close?_eq hname]
        rfl
    . split
      . rw [hrule]
        cases c.phase with
        | closing => rfl
        | matching => rfl
        | opening =>
          dsimp only [bind, Option.bind]
          cases grammar.openFrame? (pass.frames.head?.elim grammar.rootScopes (·.inner)) c with
          | none => rfl
          | some frame => rfl
      . rfl

theorem passSpans?_eq {candidates : List Candidate}
    (h : ∀ c ∈ candidates, ∃ rule, grammar.rule? c.rule = some rule)
    : grammar.passSpans? textSize candidates = some (grammar.passSpans textSize candidates) := by
  have hfold : candidates.foldlM (grammar.step? textSize) ⟨0, [], []⟩
        = some (candidates.foldl (grammar.step textSize) ⟨0, [], []⟩)
      ∧ grammar.IsNamed (candidates.foldl (grammar.step textSize) ⟨0, [], []⟩).frames :=
    foldlM_eq_some (fun pass : Pass => grammar.IsNamed pass.frames)
      (fun c hc _ hframes => ⟨step?_eq hframes (h c hc), isNamed_step hframes⟩) nofun
  have hunclosed {frames : List Frame} (hframes : grammar.IsNamed frames)
      : (frames.mapM fun frame => grammar.close? textSize frame none)
        = some (frames.map fun frame => frame.spans textSize none) := by
    apply mapM_eq_some
    intro frame hframe
    exact close?_eq (hframes frame hframe) textSize none
  unfold passSpans?
  rw [hfold.1, Option.bind_eq_bind, Option.bind_some, hunclosed hfold.2]
  rfl

theorem tokenize?_eq (h : grammar.IsIndexed) (text : Text)
    : grammar.tokenize? text = some (grammar.tokenize text) := by
  have hrules : ∀ c ∈ grammar.scan text, ∃ rule, grammar.rule? c.rule = some rule :=
    fun c hc => exists_rule?_of_lt (h.scanOrder _ (mem_scan_iff.mp hc).1)
  unfold tokenize?
  rw [scan?_eq h, Option.bind_eq_bind, Option.bind_some, passSpans?_eq hrules]
  rfl

end Grammar

end TextScopes
