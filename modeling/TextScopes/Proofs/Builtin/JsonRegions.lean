import TextScopes.Proofs.Builtin.JsonReading

/-!
This module contains what the tokenizer does from the opening to the closing delimiter of a string,
an array or an object, and in the parts of a string.
-/

namespace TextScopes.Builtin

open Regex JsonText

namespace Delimiters

structure IsKnown (d : Delimiters) : Prop where
  rule : jsonGrammar.rule? d.id = some d.rule
  children : jsonGrammar.resolution.region? d.id = some ⟨d.active⟩
  mem_scanOrder : d.id ∈ jsonGrammar.resolution.scanOrder
  mem_valueRules : d.id ∈ jsonValueRules
  size_opening : Text.size [d.opening] = 1
  size_closing : Text.size [d.closing] = 1
  opening_plain : '\\' ∉ [d.opening]
  closing_plain : '\\' ∉ [d.closing]
  begins_opening : ∀ pattern ∈ rulesAt d.opening,
    pattern = (d.id, .opening) ∨ pattern = (Delimiters.string.id, .closing)
  begins_closing : ∀ pattern ∈ rulesAt d.closing,
    pattern = (d.id, .closing) ∨ (pattern.2 = .opening ∧ pattern.1 ∉ d.active)

theorem isKnown_of_mem {d : Delimiters} (h : d ∈ [array, object, string]) : d.IsKnown := by
  simp only [List.mem_cons, List.not_mem_nil, or_false] at h
  rcases h with rfl | rfl | rfl
  all_goals exact {
    rule := rfl
    children := rfl
    mem_scanOrder := by decide
    mem_valueRules := by decide
    size_opening := rfl
    size_closing := rfl
    opening_plain := by decide
    closing_plain := by decide
    begins_opening := by decide
    begins_closing := by decide
  }

def frame (d : Delimiters) (scopes : ScopeStack) (start : Nat) : Frame where
  rule := d.id
  name := some d.scopes.name
  region := d.region
  opening := ⟨d.id, .opening, .whole start (start + 1)⟩
  children := some ⟨d.active⟩
  outer := d.scopes.name :: scopes
  inner := d.scopes.name :: scopes

end Delimiters

theorem captureSpans_whole (id : RuleId) (phase : Phase) {start stop : Nat} (hlt : start < stop)
    (scope : String) (base : ScopeStack)
    : captureSpans ⟨id, phase, .whole start stop⟩ (.ofList [(0, scope)]) base
      = [⟨scope :: base, start, stop⟩] := by
  have hle : ¬ stop ≤ start := Nat.not_le.mpr hlt
  unfold captureSpans captureSpans.go
  simp [Candidate.group?, Hit.whole, hle, captureSpans.go]

section Regions

variable {d : Delimiters} (hd : d.IsKnown) {before inside after : Text} {frames : List Frame}
include hd

theorem openFrame?_delimiters (scopes : ScopeStack) (start : Nat)
    : jsonGrammar.openFrame? scopes ⟨d.id, .opening, .whole start (start + 1)⟩
      = some (d.frame scopes start) := by
  unfold Grammar.openFrame?
  dsimp only
  rw [hd.rule, hd.children]
  rfl

omit hd in
theorem spans_frame (d : Delimiters) (scopes : ScopeStack) {start stop : Nat}
    (hlt : start < stop + 1) (textSize : Nat)
    : (d.frame scopes start).spans textSize (some ⟨d.id, .closing, .whole stop (stop + 1)⟩)
      = [⟨d.scopes.opening :: d.scopes.name :: scopes, start, start + 1⟩,
          ⟨d.scopes.closing :: d.scopes.name :: scopes, stop, stop + 1⟩,
          ⟨d.scopes.name :: scopes, start, stop + 1⟩] := by
  have hopening := captureSpans_whole d.id .opening (Nat.lt_succ_self start) d.scopes.opening
    (d.scopes.name :: scopes)
  have hclosing := captureSpans_whole d.id .closing (Nat.lt_succ_self stop) d.scopes.closing
    (d.scopes.name :: scopes)
  have hwhole : spanOf (d.scopes.name :: scopes) start (stop + 1)
      = [⟨d.scopes.name :: scopes, start, stop + 1⟩] := if_pos hlt
  unfold Frame.spans
  dsimp only [Delimiters.frame, Delimiters.region, Option.elim]
  rw [hopening, hclosing]
  exact congrArg _ hwhole

theorem passes_opening (hframes : ValueMayStand frames)
    : Passes before [d.opening] after frames
        (d.frame (jsonGrammar.scopesIn frames) before.size :: frames) [] := by
  intro haligned
  refine ⟨haligned.append hd.opening_plain, ?_⟩
  have hhit := whole_mem_hits_char d.openingPattern before d.opening after
  rw [hd.size_opening] at hhit
  have hc : ⟨d.id, .opening, .whole before.size (before.size + 1)⟩
      ∈ jsonGrammar.scan (before ++ ([d.opening] ++ after)) :=
    Grammar.mem_scan (hd.mem_scanOrder) hd.rule rfl hhit
  rw [Text.size_append, hd.size_opening]
  apply Grammar.Moves.of_opening nodup_scanOrder hc (Nat.lt_succ_self _) _ rfl
    (hframes.active d.id hd.mem_valueRules) (openFrame?_delimiters hd _ _)
  intro c hmem hstart
  rcases hd.begins_opening _ (mem_rulesAt hmem hstart) with heq | heq
  . rcases Prod.mk.inj heq with ⟨hrule, hphase⟩
    exact Or.inl (Grammar.eq_of_mem_scan hc hmem hrule hphase hstart)
  . -- what would close a string is not needed where none is open
    rcases Prod.mk.inj heq with ⟨hrule, hphase⟩
    refine Or.inr (Or.inl ⟨?_, Or.inl hphase⟩)
    rintro ⟨-, hclosed⟩
    rw [hrule] at hclosed
    exact hframes.notInString hclosed

theorem passes_closing {start : Nat} (hstart : start < before.size + 1)
    (scopes : ScopeStack)
    : Passes before [d.closing] after (d.frame scopes start :: frames) frames
        [⟨d.scopes.opening :: d.scopes.name :: scopes, start, start + 1⟩,
          ⟨d.scopes.closing :: d.scopes.name :: scopes, before.size, before.size + 1⟩,
          ⟨d.scopes.name :: scopes, start, before.size + 1⟩] := by
  intro haligned
  refine ⟨haligned.append hd.closing_plain, ?_⟩
  have hhit := whole_mem_hits_char d.closingPattern before d.closing after
  rw [hd.size_closing] at hhit
  have hc : ⟨d.id, .closing, .whole before.size (before.size + 1)⟩
      ∈ jsonGrammar.scan (before ++ ([d.closing] ++ after)) :=
    Grammar.mem_scan (hd.mem_scanOrder) hd.rule rfl hhit
  rw [Text.size_append, hd.size_closing, ← spans_frame d scopes hstart]
  apply Grammar.Moves.of_closing nodup_scanOrder hc (Nat.lt_succ_self _) _ ⟨rfl, rfl⟩
  intro c hmem hstart
  rcases hd.begins_closing _ (mem_rulesAt hmem hstart) with heq | ⟨hphase, hinactive⟩
  . rcases Prod.mk.inj heq with ⟨hrule, hphase⟩
    exact Or.inl (Grammar.eq_of_mem_scan hc hmem hrule hphase hstart)
  . -- a string does not begin inside a string
    refine Or.inr (Or.inl ⟨?_, Or.inr ?_⟩)
    . rintro ⟨hclosing, -⟩
      cases hphase.symm.trans hclosing
    . intro hactive
      exact hinactive (List.contains_iff_mem.mp hactive)

omit hd in
theorem inOrder_delimited (d : DelimiterScopes) (scopes : ScopeStack) {start size : Nat}
    {inside : List Span} (h : Span.InOrder (start + 1) (start + 1 + size) inside)
    : Span.InOrder start (start + 1 + size + 1) (d.spans scopes start size inside) := by
  have hclosing := h.append
    (Span.InOrder.singleton (d.closing :: d.name :: scopes) (Nat.lt_succ_self (start + 1 + size)))
    (by omega) (by omega)
  have hopening := Span.InOrder.singleton (d.opening :: d.name :: scopes) (Nat.lt_succ_self start)
  have hall := hopening.append hclosing (by omega) (by omega)
  apply hall.cons _ (by omega)
  intro span hspan
  rcases List.mem_cons.mp hspan with rfl | hspan
  . right
    dsimp only
    omega
  . have := hclosing.start_le span hspan
    omega

omit hd in
theorem perm_delimited (whole opening closing : Span) (inside : List Span)
    : (inside ++ [opening, closing, whole]).Perm (whole :: opening :: (inside ++ [closing])) := by
  calc
    (inside ++ [opening, closing, whole]).Perm (opening :: (inside ++ [closing, whole])) :=
      List.perm_middle
    _ |>.Perm (opening :: whole :: (inside ++ [closing])) := by
      rw [List.perm_cons, List.append_cons]
      exact List.perm_append_singleton whole (inside ++ [closing])
    _ |>.Perm (whole :: opening :: (inside ++ [closing])) := List.Perm.swap _ _ _

theorem passes_delimited (hframes : ValueMayStand frames) {spans : List Span}
    (hinside : Passes (before ++ [d.opening]) inside ([d.closing] ++ after)
      (d.frame (jsonGrammar.scopesIn frames) before.size :: frames)
      (d.frame (jsonGrammar.scopesIn frames) before.size :: frames) spans)
    : Passes before ([d.opening] ++ (inside ++ [d.closing])) after frames frames
        (d.scopes.spans (jsonGrammar.scopesIn frames) before.size inside.size spans) := by
  have hstop : (before ++ [d.opening] ++ inside).size = before.size + 1 + inside.size := by
    rw [Text.size_append, Text.size_append, hd.size_opening]
  have hopening : Passes before [d.opening] (inside ++ [d.closing] ++ after) frames
      (d.frame (jsonGrammar.scopesIn frames) before.size :: frames) [] :=
    passes_opening hd hframes
  have hclosing : Passes (before ++ [d.opening] ++ inside) [d.closing] after
      (d.frame (jsonGrammar.scopesIn frames) before.size :: frames) frames _ :=
    passes_closing hd (by omega) (jsonGrammar.scopesIn frames)
  rw [hstop] at hclosing
  exact (hopening.trans (hinside.trans hclosing)).perm (perm_delimited _ _ _ _)

theorem reads_delimited (hframes : ValueMayStand frames) {spans : List Span}
    (hinside : Reads (before ++ [d.opening]) inside ([d.closing] ++ after)
      (d.frame (jsonGrammar.scopesIn frames) before.size :: frames) spans)
    : Reads before ([d.opening] ++ (inside ++ [d.closing])) after frames
        (d.scopes.spans (jsonGrammar.scopesIn frames) before.size inside.size spans) := by
  refine ⟨?_, passes_delimited hd hframes hinside.passes⟩
  have hstart : (before ++ [d.opening]).size = before.size + 1 := by
    rw [Text.size_append, hd.size_opening]
  have hsize : (before ++ ([d.opening] ++ (inside ++ [d.closing]))).size
      = before.size + 1 + inside.size + 1 := by
    rw [← List.append_assoc, ← List.append_assoc, Text.size_append, Text.size_append, hstart,
      hd.size_closing]
  rw [hsize]
  apply inOrder_delimited
  rw [← hstart, ← Text.size_append]
  exact hinside.inOrder

end Regions

section Strings

theorem not_mem_of_plain {x : Char} (hx : IsPlain x)
    : ∀ pattern ∈ rulesAt x, pattern.1 ∉ Delimiters.string.id :: Delimiters.string.active := by
  unfold rulesAt
  split
  case h_7 => exact absurd rfl hx.2.1
  case h_8 => exact absurd rfl hx.2.2
  case h_15 =>
    split
    . decide
    . exact nofun
  all_goals decide

variable {before after : Text} (scopes : ScopeStack) (start : Nat) (frames : List Frame)

theorem reads_plain (x : { x : Char // IsPlain x })
    : Reads before [x.val] after (Delimiters.string.frame scopes start :: frames) [] := by
  apply Reads.of_skips
  . intro hmem
    exact x.property.2.2 (List.mem_singleton.mp hmem).symm
  . intro y hy c hc
    rw [List.mem_singleton] at hy
    subst hy
    have hrule := not_mem_of_plain x.property _ hc
    rw [List.mem_cons, not_or] at hrule
    refine ⟨?_, Or.inr ?_⟩
    . rintro ⟨-, hclosed⟩
      exact hrule.1 (Option.some.inj hclosed).symm
    . intro hactive
      exact hrule.2 (List.contains_iff_mem.mp hactive)

theorem rulesAt_backslash {pattern : RuleId × Phase} (h : pattern ∈ rulesAt '\\')
    : pattern = (7, .matching) ∨ pattern = (8, .matching) := by
  rcases List.mem_cons.mp h with h | h
  . exact Or.inl h
  . exact Or.inr (List.mem_singleton.mp h)

theorem reads_escape {x : Char} {tail : Text} (hx : x ≠ '\n') (htail : '\\' ∉ tail)
    (hescape : escapeRegex.expr.Prefers before.getLast? ('\\' :: x :: tail) after)
    : Reads before ('\\' :: x :: tail) after (Delimiters.string.frame scopes start :: frames)
        [⟨"constant.character.escape.json" :: Delimiters.string.scopes.name :: scopes, before.size,
          before.size + Text.size ('\\' :: x :: tail)⟩] := by
  constructor
  . rw [Text.size_append]
    exact .singleton _ (Nat.lt_add_of_pos_right (Text.size_pos nofun))
  . intro haligned
    have hhit := whole_mem_hits rfl haligned.1 hescape
    have hillegal : Hit.whole before.size (before.size + Text.size ['\\', x])
        ∈ illegalEscapeRegex.hits (before ++ (['\\', x] ++ (tail ++ after))) :=
      whole_mem_hits rfl haligned.2 (prefers_illegal hx)
    refine ⟨⟨?_, ?_⟩, moves_matching 7 rfl (by decide) rfl hhit nofun ?_⟩
    . rw [Text.size_append]
      exact isClear_stop hhit
    . have hclear : illegalEscapeRegex.IsClear (before ++ ['\\', x] ++ (tail ++ after))
          (before ++ ['\\', x]).size := by
        rw [Text.size_append, List.append_assoc]
        exact isClear_stop hillegal
      have hbehind := hclear.append (by
        rintro c v ⟨_, b, heq, rfl, -⟩
        cases heq
        exact htail)
      simpa using hbehind
    . intro d hd hstart
      rcases rulesAt_backslash (mem_rulesAt hd hstart) with heq | heq
      . exact Or.inl (Prod.mk.inj heq)
      . rcases Prod.mk.inj heq with ⟨hrule, hphase⟩
        have hc : ⟨7, .matching, _⟩ ∈ jsonGrammar.scan _ :=
          Grammar.mem_scan (by decide) (rfl : jsonGrammar.rule? 7 = _) rfl hhit
        have hother : ⟨8, .matching, _⟩ ∈ jsonGrammar.scan _ :=
          Grammar.mem_scan (by decide) (rfl : jsonGrammar.rule? 8 = _) rfl hillegal
        have heq := Grammar.eq_of_mem_scan hother hd hrule hphase hstart
        subst heq
        -- the match of the other rule is no longer than this one, and its rule comes later
        have hrules : [(7 : RuleId), 8].Sublist jsonGrammar.resolution.scanOrder := by decide
        refine Or.inr (Or.inr (Grammar.sublist_scan hrules hc hother ?_))
        refine Candidate.le_of_stop_le ?_ ?_ ?_
        . rfl
        . dsimp only [Candidate.stop, Hit.whole]
          simp
        . exact Nat.le_refl 1

theorem reads_part (part : Part)
    : Reads before part.text after (Delimiters.string.frame scopes start :: frames)
        (part.spans (Delimiters.string.scopes.name :: scopes) before.size) := by
  cases part with
  | plain x => exact reads_plain scopes start frames x
  | short x =>
    refine reads_escape scopes start frames ?_ nofun (prefers_short x)
    intro heq
    have hmem := x.property
    rw [heq] at hmem
    exact absurd hmem (by decide)
  | code a b c d =>
    refine reads_escape scopes start frames (by decide) ?_ (prefers_code a b c d)
    intro hmem
    simp only [List.mem_cons, List.not_mem_nil, or_false] at hmem
    have hhex (digit : HexDigit) : '\\' ≠ digit.val := by
      intro heq
      have hdigit := digit.property
      rw [← heq] at hdigit
      exact absurd hdigit (by unfold IsHexDigit; decide)
    rcases hmem with hmem | hmem | hmem | hmem
    all_goals exact hhex _ hmem

theorem reads_parts (parts : List Part)
    : Reads before (partsText parts) after (Delimiters.string.frame scopes start :: frames)
        (partsSpans (Delimiters.string.scopes.name :: scopes) before.size parts) := by
  induction parts generalizing before with
  | nil => exact .nil _ _ _
  | cons part parts ih =>
    have hpart : Reads before part.text (partsText parts ++ after) _ _ :=
      reads_part scopes start frames part
    have hparts : Reads (before ++ part.text) (partsText parts) after _ _ := ih
    rw [Text.size_append] at hparts
    exact hpart.append hparts

theorem reads_quoted (hframes : ValueMayStand frames) (parts : List Part)
    : Reads before (quotedText parts) after frames
        (quotedSpans (jsonGrammar.scopesIn frames) before.size parts) := by
  have hparts : Reads (before ++ ['"']) (partsText parts) (['"'] ++ after) _ _ :=
    reads_parts (jsonGrammar.scopesIn frames) before.size frames parts
  rw [Text.size_append] at hparts
  exact reads_delimited (Delimiters.isKnown_of_mem (d := .string) (by simp)) hframes hparts

end Strings

end TextScopes.Builtin
