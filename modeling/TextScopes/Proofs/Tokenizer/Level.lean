import TextScopes.Tokenizer

/-!
This module contains the choice of tokens as a recursion over the levels of nesting. A level reads
candidates from a given index on until one closes it, and a candidate that opens a region has the
level inside the region read first.
-/

namespace TextScopes

/-- The spans of a region around those inside it, given the candidate that closes it, if any. -/
def regionSpans (textSize : Nat) (rule : Rule) (region : Region) (scopes : ScopeStack)
    (opening : Candidate) (closing : Option Candidate) (inside : List Span) : List Span :=
  let outer := pushScope rule.name scopes
  let inner := pushScope region.contentName outer
  let content :=
    if region.contentName.isSome then
      spanOf inner opening.stop (closing.elim textSize (·.start))
    else []
  let atBegin := captureSpans opening region.beginCaptures outer
  let atEnd := closing.elim [] fun c => captureSpans c region.endCaptures outer
  let whole :=
    if rule.name.isSome then spanOf outer opening.start (closing.elim textSize (·.stop)) else []
  content ++ atBegin ++ atEnd ++ inside ++ whole

/-- The spans of a token: that of its name, then those of its groups. -/
def wordSpans (rule : Rule) (scopes : ScopeStack) (c : Candidate) : List Span :=
  let outer := pushScope rule.name scopes
  let whole := if rule.name.isSome then spanOf outer c.start c.stop else []
  match rule.kind with
  | .matching _ captures => whole ++ captureSpans c captures outer
  | _ => whole

namespace Grammar

/-- The spans of one level of nesting, and the index of the candidate that closes it. The level has
active rules and scopes, a region around it or none, a cursor, and the index to read from. -/
def tokenizeLevel (grammar : Grammar) (textSize : Nat) (stream : List Candidate)
    (active : ActiveSet) (scopes : ScopeStack) (enclosing : Option RuleId) (cursor index : Nat)
    : { level : List Span × Nat // index ≤ level.2 } :=
  match hc : stream[index]? with
  | none => ⟨([], index), Nat.le_refl index⟩
  | some c =>
    have hlt : index < stream.length := (List.getElem?_eq_some_iff.mp hc).1
    let skip : { level : List Span × Nat // index ≤ level.2 } :=
      let ⟨level, hlevel⟩ :=
        grammar.tokenizeLevel textSize stream active scopes enclosing cursor (index + 1)
      ⟨level, by omega⟩
    if c.start < cursor then skip
    -- the region around can be closed whatever is active inside it
    else if c.phase = .closing ∧ enclosing = some c.rule then ⟨([], index), Nat.le_refl index⟩
    else if !active.contains c.rule then skip
    else
      match c.phase with
      | .closing => skip
      | .matching =>
        let word := ((grammar.rule? c.rule).map (wordSpans · scopes c)).getD []
        let ⟨⟨spans, stop⟩, hlevel⟩ :=
          grammar.tokenizeLevel textSize stream active scopes enclosing c.stop (index + 1)
        ⟨(word ++ spans, stop), by dsimp only at *; omega⟩
      | .opening =>
        match (grammar.rule? c.rule).bind fun rule => rule.region?.map (rule, ·) with
        | none => skip
        | some (rule, region) =>
          let children := (grammar.resolution.region? c.rule).getD ⟨[]⟩
          let inner := pushScope region.contentName (pushScope rule.name scopes)
          let ⟨⟨inside, stop⟩, hinside⟩ :=
            grammar.tokenizeLevel textSize stream children inner (some c.rule) c.stop (index + 1)
          match stream[stop]? with
          | none =>
            -- no candidate is left for the level around
            ⟨(regionSpans textSize rule region scopes c none inside, stop),
              by dsimp only at *; omega⟩
          | some closing =>
            have : index < stop := hinside
            let ⟨⟨spans, last⟩, hlevel⟩ :=
              grammar.tokenizeLevel textSize stream active scopes enclosing closing.stop (stop + 1)
            ⟨(regionSpans textSize rule region scopes c (some closing) inside ++ spans, last),
              by dsimp only at *; omega⟩
termination_by stream.length - index

/-- The spans of a text, level by level. The outermost level has no region around it and runs to the
end of the candidates. -/
def tokenizeLevels (grammar : Grammar) (text : Text) : List Span :=
  (grammar.tokenizeLevel text.size (grammar.scan text) grammar.resolution.root grammar.rootScopes
    none 0 0).1.1

/-- Whether a level can end at an index: behind all candidates, or at one that closes the region. -/
def EndsLevel (stream : List Candidate) (enclosing : Option RuleId) (stop : Nat) : Prop :=
  stop = stream.length ∨
    ∃ c, stream[stop]? = some c ∧ c.phase = .closing ∧ enclosing = some c.rule

theorem endsLevel_tokenizeLevel (grammar : Grammar) (textSize : Nat) {stream : List Candidate}
    (active : ActiveSet) (scopes : ScopeStack) (enclosing : Option RuleId) (cursor : Nat)
    {index : Nat} (h : index ≤ stream.length)
    : EndsLevel stream enclosing
        (grammar.tokenizeLevel textSize stream active scopes enclosing cursor index).1.2 := by
  unfold tokenizeLevel
  split
  . next hc =>
    have := List.getElem?_eq_none_iff.mp hc
    exact Or.inl (by dsimp only; omega)
  . next c hc =>
    have hlt : index < stream.length := (List.getElem?_eq_some_iff.mp hc).1
    dsimp only
    split
    . exact endsLevel_tokenizeLevel _ _ _ _ _ _ hlt
    . split
      . next hcloses => exact Or.inr ⟨c, hc, hcloses⟩
      . split
        . exact endsLevel_tokenizeLevel _ _ _ _ _ _ hlt
        . split
          . exact endsLevel_tokenizeLevel _ _ _ _ _ _ hlt
          . exact endsLevel_tokenizeLevel _ _ _ _ _ _ hlt
          . split
            . exact endsLevel_tokenizeLevel _ _ _ _ _ _ hlt
            . next rule region _ =>
              -- the level goes on where the region inside it ends
              have hinside := endsLevel_tokenizeLevel grammar textSize
                ((grammar.resolution.region? c.rule).getD ⟨[]⟩)
                (pushScope region.contentName (pushScope rule.name scopes)) (some c.rule) c.stop hlt
              generalize grammar.tokenizeLevel textSize stream _ _ (some c.rule) c.stop (index + 1)
                = inside at hinside ⊢
              rcases inside with ⟨⟨inside, stop⟩, hforward⟩
              dsimp only at *
              split
              . next hstop =>
                rcases hinside with hinside | ⟨closing, hclosing, -⟩
                . exact Or.inl hinside
                . rw [hstop] at hclosing
                  contradiction
              . next hstop =>
                exact endsLevel_tokenizeLevel _ _ _ _ _ _ (List.getElem?_eq_some_iff.mp hstop).1
termination_by stream.length - index

end Grammar

end TextScopes
