import TextScopes.Proofs.Regex.LineHits
import TextScopes.Proofs.Stream
import TextScopes.Proofs.Tokenizer.Step

/-!
This module contains the pass over candidates that all stand further behind in the text: it takes
the same ones and gives the same spans further behind.
-/

namespace TextScopes

def Span.shift (offset : Nat) (span : Span) : Span :=
  ⟨span.scopes, span.start + offset, span.stop + offset⟩

def Candidate.shift (offset : Nat) (c : Candidate) : Candidate :=
  ⟨c.rule, c.phase, c.hit.shift offset⟩

def Frame.shift (offset : Nat) (frame : Frame) : Frame :=
  { frame with opening := frame.opening.shift offset }

variable {offset : Nat}

namespace Candidate

@[simp]
theorem start_shift (c : Candidate) : (c.shift offset).start = c.start + offset := rfl

@[simp]
theorem stop_shift (c : Candidate) : (c.shift offset).stop = c.stop + offset := rfl

@[simp]
theorem rule_shift (c : Candidate) : (c.shift offset).rule = c.rule := rfl

@[simp]
theorem phase_shift (c : Candidate) : (c.shift offset).phase = c.phase := rfl

theorem group?_shift (c : Candidate) (index : Nat)
    : (c.shift offset).group? index
      = (c.group? index).map fun (start, stop) => (start + offset, stop + offset) := by
  unfold group? shift Regex.Hit.shift
  rw [List.getElem?_map]
  cases c.hit.groups[index]? with
  | none => rfl
  | some group => rfl

theorem le_shift (a b : Candidate) : (a.shift offset).le (b.shift offset) = a.le b := by
  have hlength (c : Candidate) : (c.shift offset).length = c.length := by
    simp [length, Nat.add_sub_add_right]
  have hrank (c : Candidate) : (c.shift offset).rank = c.rank := rfl
  rw [Bool.eq_iff_iff, le_iff, le_iff, hlength, hlength, hrank, hrank, start_shift, start_shift]
  omega

end Candidate

theorem spanOf_shift (scopes : ScopeStack) (start stop : Nat)
    : spanOf scopes (start + offset) (stop + offset)
      = (spanOf scopes start stop).map (Span.shift offset) := by
  unfold spanOf
  split
  . rw [if_pos (by omega)]
    rfl
  . rw [if_neg (by omega)]
    rfl

theorem captureSpans.go_shift (c : Candidate) (base : ScopeStack) (placed : List Span)
    (entries : List (Nat × String))
    : go (c.shift offset) base (placed.map (Span.shift offset)) entries
      = (go c base placed entries).map (Span.shift offset) := by
  induction entries generalizing placed with
  | nil => rfl
  | cons entry rest ih =>
    rcases entry with ⟨index, scope⟩
    rw [go, go, Candidate.group?_shift]
    cases c.group? index with
    | none => exact ih placed
    | some group =>
      rcases group with ⟨start, stop⟩
      dsimp only [Option.map_some]
      by_cases hle : stop ≤ start
      . rw [if_pos hle, if_pos (by omega)]
        exact ih placed
      . rw [if_neg hle, if_neg (by omega)]
        have hfind : (placed.map (Span.shift offset)).find?
              (fun span => span.start ≤ start + offset && stop + offset ≤ span.stop)
            = (placed.find? fun span => span.start ≤ start && stop ≤ span.stop).map
                (Span.shift offset) := by
          rw [List.find?_map]
          simp only [Function.comp_def, Span.shift, Nat.add_le_add_iff_right]
        rw [hfind, List.map_cons, ← ih, List.map_cons, Option.map_map]
        rfl

theorem captureSpans_shift (c : Candidate) (captures : CaptureMap) (base : ScopeStack)
    : captureSpans (c.shift offset) captures base
      = (captureSpans c captures base).map (Span.shift offset) :=
  captureSpans.go_shift c base [] captures.entries

theorem matchSpans_shift (rule : Rule) (c : Candidate) (scopes : ScopeStack)
    : matchSpans rule (c.shift offset) scopes
      = (matchSpans rule c scopes).map (Span.shift offset) := by
  unfold matchSpans
  simp only [Candidate.start_shift, Candidate.stop_shift, spanOf_shift, List.map_append]
  congr 1
  . cases rule.kind with
    | matching regex captures => exact captureSpans_shift c captures _
    | _ => rfl
  . split
    . rfl
    . rfl

namespace Frame

theorem spans_shift_of_closing (frame : Frame) (textSize textSize' : Nat) (c : Candidate)
    : (frame.shift offset).spans textSize' (some (c.shift offset))
      = (frame.spans textSize (some c)).map (Span.shift offset) := by
  have hstart : (frame.opening.shift offset).start = frame.opening.start + offset := rfl
  have hstop : (frame.opening.shift offset).stop = frame.opening.stop + offset := rfl
  unfold spans shift
  simp only [Option.elim_some, Candidate.start_shift, Candidate.stop_shift, spanOf_shift,
    captureSpans_shift, List.map_append]
  congr 1
  . congr 2
    split
    . rfl
    . rfl
  . split
    . rfl
    . rfl

theorem spans_shift (frame : Frame) (textSize : Nat)
    : (frame.shift offset).spans (textSize + offset) none
      = (frame.spans textSize none).map (Span.shift offset) := by
  unfold spans shift
  simp only [Option.elim_none, Candidate.start_shift, Candidate.stop_shift, spanOf_shift,
    captureSpans_shift, List.map_append, List.map_nil]
  congr 1
  . congr 2
    split
    . rfl
    . rfl
  . split
    . rfl
    . rfl

end Frame

namespace Grammar

variable {grammar : Grammar} {pass pass' : Pass} {before : List (List Span)}
  {textSize textSize' : Nat}

/-- Whether a pass is in the same state as another one, further behind in the text. -/
structure IsShifted (offset : Nat) (before : List (List Span)) (pass pass' : Pass) : Prop where
  cursor : ∀ n, n + offset < pass'.cursor ↔ n < pass.cursor
  frames : pass'.frames = pass.frames.map (Frame.shift offset)
  spans : pass'.spans = pass.spans.map (List.map (Span.shift offset)) ++ before

theorem activeIn_shift (frames : List Frame)
    : grammar.activeIn (frames.map (Frame.shift offset)) = grammar.activeIn frames := by
  cases frames with
  | nil => rfl
  | cons frame rest => rfl

theorem scopesIn_shift (frames : List Frame)
    : grammar.scopesIn (frames.map (Frame.shift offset)) = grammar.scopesIn frames := by
  cases frames with
  | nil => rfl
  | cons frame rest => rfl

theorem closes_shift {frames : List Frame} {c : Candidate}
    : Closes (frames.map (Frame.shift offset)) (c.shift offset) ↔ Closes frames c := by
  cases frames with
  | nil => rfl
  | cons frame rest => rfl

theorem tokenSpans_shift (scopes : ScopeStack) (c : Candidate)
    : grammar.tokenSpans scopes (c.shift offset)
      = (grammar.tokenSpans scopes c).map (Span.shift offset) := by
  unfold tokenSpans
  rw [Candidate.rule_shift]
  cases grammar.rule? c.rule with
  | none => rfl
  | some rule => exact matchSpans_shift rule c scopes

theorem openFrame?_shift (scopes : ScopeStack) (c : Candidate)
    : grammar.openFrame? scopes (c.shift offset)
      = (grammar.openFrame? scopes c).map (Frame.shift offset) := by
  unfold openFrame?
  rw [Candidate.rule_shift]
  cases grammar.rule? c.rule with
  | none => rfl
  | some rule =>
    dsimp only [Option.bind_eq_bind, Option.bind_some]
    cases rule.region? with
    | none => rfl
    | some region => rfl

theorem IsShifted.step (h : IsShifted offset before pass pass') (c : Candidate)
    : IsShifted offset before (grammar.step textSize pass c)
        (grammar.step textSize' pass' (c.shift offset)) := by
  rcases pass with ⟨cursor, frames, spans⟩
  rcases pass' with ⟨cursor', frames', spans'⟩
  rcases h with ⟨hcursor, rfl, rfl⟩
  dsimp only at hcursor
  have hstop (n : Nat) : n + offset < (c.shift offset).stop ↔ n < c.stop := by simp
  -- both passes treat the candidate alike, since the places of both are shifted with it
  by_cases hlt : c.start < cursor
  . rw [step_of_lt hlt, step_of_lt ((hcursor c.start).mpr hlt)]
    exact ⟨hcursor, rfl, rfl⟩
  . have hle := Nat.not_lt.mp hlt
    have hle' : cursor' ≤ (c.shift offset).start := Nat.not_lt.mp (mt (hcursor c.start).mp hlt)
    by_cases hcloses : Closes frames c
    . cases frames with
      | nil => cases hcloses.2
      | cons frame frames =>
        rw [step_of_closes hle hcloses, List.map_cons,
          step_of_closes hle' (closes_shift.mpr hcloses)]
        exact ⟨hstop, rfl, by simp [Frame.spans_shift_of_closing _ textSize textSize']⟩
    . have hcloses' : ¬ Closes (frames.map (Frame.shift offset)) (c.shift offset) :=
        mt closes_shift.mp hcloses
      by_cases hactive : (grammar.activeIn frames).any (·.contains c.rule)
      . have hactive' : (grammar.activeIn (frames.map (Frame.shift offset))).any
            (·.contains (c.shift offset).rule) := by
          rw [activeIn_shift]
          exact hactive
        cases hphase : c.phase with
        | closing =>
          rw [step_of_stray hle hcloses hphase, step_of_stray hle' hcloses' hphase]
          exact ⟨hcursor, rfl, rfl⟩
        | matching =>
          rw [step_of_matching hle hactive hphase, step_of_matching hle' hactive' hphase,
            scopesIn_shift, tokenSpans_shift]
          exact ⟨hstop, rfl, by simp⟩
        | opening =>
          rw [step_of_opening hle hactive hphase, step_of_opening hle' hactive' hphase,
            scopesIn_shift, openFrame?_shift]
          cases grammar.openFrame? (grammar.scopesIn frames) c with
          | none => exact ⟨hcursor, rfl, rfl⟩
          | some frame => exact ⟨hstop, rfl, rfl⟩
      . rw [step_of_inactive hle hcloses hactive, step_of_inactive hle' hcloses' _]
        . exact ⟨hcursor, rfl, rfl⟩
        . rw [activeIn_shift]
          exact hactive

theorem IsShifted.foldl (h : IsShifted offset before pass pass') (stream : List Candidate)
    : IsShifted offset before (stream.foldl (grammar.step textSize) pass)
        ((stream.map (Candidate.shift offset)).foldl (grammar.step textSize') pass') := by
  induction stream generalizing pass pass' with
  | nil => exact h
  | cons c stream ih => exact ih (h.step c)

theorem passSpans_append {first second : List Candidate}
    (hframes : (first.foldl (grammar.step textSize) ⟨0, [], []⟩).frames = [])
    (hcursor : (first.foldl (grammar.step textSize) ⟨0, [], []⟩).cursor ≤ offset)
    : grammar.passSpans (textSize' + offset) (first ++ second.map (Candidate.shift offset))
      = grammar.passSpans textSize first
        ++ (grammar.passSpans textSize' second).map (Span.shift offset) := by
  -- where the text ends makes no difference to a step
  have hstep : grammar.step (textSize' + offset) = grammar.step textSize := rfl
  unfold passSpans
  rw [List.foldl_append, hstep]
  generalize first.foldl (grammar.step textSize) ⟨0, [], []⟩ = mid at *
  have hmid : IsShifted offset mid.spans ⟨0, [], []⟩ mid := by
    refine ⟨?_, hframes, rfl⟩
    intro n
    dsimp only
    omega
  have hend : IsShifted offset mid.spans (second.foldl (grammar.step textSize') ⟨0, [], []⟩)
      ((second.map (Candidate.shift offset)).foldl (grammar.step textSize) mid) := hmid.foldl second
  generalize (second.map (Candidate.shift offset)).foldl (grammar.step textSize) mid = last at *
  generalize second.foldl (grammar.step textSize') ⟨0, [], []⟩ = last' at *
  have hunclosed : last.frames.map (fun frame => frame.spans (textSize' + offset) none)
      = (last'.frames.map fun frame => frame.spans textSize' none).map
          (List.map (Span.shift offset)) := by
    rw [hend.frames, List.map_map, List.map_map]
    apply List.map_congr_left
    intro frame _
    exact frame.spans_shift textSize'
  dsimp only
  rw [hunclosed, hend.spans, hframes]
  simp [List.map_flatten]

end Grammar

end TextScopes
