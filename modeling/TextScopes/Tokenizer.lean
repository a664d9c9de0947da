import TextScopes.Candidate
import TextScopes.Span

/-!
This module contains the choice of tokens among candidates. One pass over the candidates in order
keeps the open regions on a stack: a candidate is taken if it lies behind the text consumed so far
and its rule is active in the innermost region, or if it closes that region.
-/

namespace TextScopes

def pushScope (scope : Option String) (scopes : ScopeStack) : ScopeStack :=
  match scope with
  | some scope => scope :: scopes
  | none => scopes

structure Frame where
  rule : RuleId
  name : Option String
  region : Region
  opening : Candidate
  children : Option ActiveSet
  outer : ScopeStack
  inner : ScopeStack

def spanOf (scopes : ScopeStack) (start stop : Nat) : List Span :=
  if start < stop then [⟨scopes, start, stop⟩] else []

/-- The spans of the groups of a candidate that have scopes, in the order of their numbers. A group
inside an earlier one has the scopes of the last such group below its own. -/
def captureSpans.go (candidate : Candidate) (base : ScopeStack) (placed : List Span) :
    List (Nat × String) → List Span
  | [] => []
  | (index, scope) :: rest =>
    match candidate.group? index with
    | none => go candidate base placed rest
    | some (start, stop) =>
      if stop ≤ start then go candidate base placed rest
      else
        let parent := placed.find? fun span => span.start ≤ start && stop ≤ span.stop
        let span : Span := ⟨scope :: (parent.map (·.scopes)).getD base, start, stop⟩
        span :: go candidate base (span :: placed) rest

def captureSpans (candidate : Candidate) (captures : CaptureMap) (base : ScopeStack) : List Span :=
  captureSpans.go candidate base [] captures.entries

def matchSpans (rule : Rule) (candidate : Candidate) (scopes : ScopeStack) : List Span :=
  let scopes := pushScope rule.name scopes
  let inside :=
    match rule.kind with
    | .matching _ captures => captureSpans candidate captures scopes
    | _ => []
  inside ++ if rule.name.isSome then spanOf scopes candidate.start candidate.stop else []

namespace Frame

/-- The spans of a region. One that nothing closes runs to the end of the text. -/
def spans (frame : Frame) (textSize : Nat) (closing : Option Candidate) : List Span :=
  let contentStop := closing.elim textSize (·.start)
  let regionStop := closing.elim textSize (·.stop)
  let content :=
    if frame.region.contentName.isSome then spanOf frame.inner frame.opening.stop contentStop
    else []
  let atBegin := captureSpans frame.opening frame.region.beginCaptures frame.outer
  let atEnd := closing.elim [] fun c => captureSpans c frame.region.endCaptures frame.outer
  let whole := if frame.name.isSome then spanOf frame.outer frame.opening.start regionStop else []
  content ++ atBegin ++ atEnd ++ whole

end Frame

structure Pass where
  /-- The offset up to which text is consumed. -/
  cursor : Nat
  frames : List Frame
  /-- The spans so far, those of the latest candidate first. -/
  spans : List (List Span)

namespace Grammar

def rootScopes (grammar : Grammar) : ScopeStack := [grammar.scopeName]

def openFrame? (grammar : Grammar) (scopes : ScopeStack) (candidate : Candidate) :
    Option Frame := do
  let rule ← grammar.rule? candidate.rule
  let region ← rule.region?
  let outer := pushScope rule.name scopes
  some
    { rule := candidate.rule
      name := rule.name
      region := region
      opening := candidate
      children := grammar.resolution.region? candidate.rule
      outer := outer
      inner := pushScope region.contentName outer }

def step (grammar : Grammar) (textSize : Nat) (pass : Pass) (candidate : Candidate) : Pass :=
  if candidate.start < pass.cursor then pass
  else
    let top := pass.frames.head?
    -- the innermost region can be closed whatever is active inside it
    if candidate.phase = .closing ∧ top.map (·.rule) = some candidate.rule then
      match pass.frames with
      | [] => pass
      | frame :: frames =>
        ⟨candidate.stop, frames, frame.spans textSize (some candidate) :: pass.spans⟩
    else
      let active := top.elim (some grammar.resolution.root) (·.children)
      let scopes := top.elim grammar.rootScopes (·.inner)
      if active.any (·.contains candidate.rule) then
        match candidate.phase with
        | .closing => pass
        | .matching =>
          let spans :=
            ((grammar.rule? candidate.rule).map (matchSpans · candidate scopes)).getD []
          { pass with cursor := candidate.stop, spans := spans :: pass.spans }
        | .opening =>
          match grammar.openFrame? scopes candidate with
          | some frame => { pass with cursor := candidate.stop, frames := frame :: pass.frames }
          | none => pass
      else pass

/-- The spans of candidates in the order in which they are completed. -/
def passSpans (grammar : Grammar) (textSize : Nat) (candidates : List Candidate) : List Span :=
  let pass := candidates.foldl (grammar.step textSize) ⟨0, [], []⟩
  let unclosed := pass.frames.map fun frame => frame.spans textSize none
  (pass.spans.reverse ++ unclosed).flatten

/-- The spans of a text: a span stands before the spans inside it. -/
def tokenize (grammar : Grammar) (text : Text) : List Span :=
  (grammar.passSpans text.size (grammar.scan text)).mergeSort Span.le

end Grammar

end TextScopes
