import TextScopes.Proofs.Builtin.JsonTokens
import TextScopes.Proofs.Span.Order

/-!
This module contains what the tokenizer does in the pieces of a JSON text: which pieces it passes
over, and what it makes of each token where a value, a part of a string or a separator may stand.
-/

namespace TextScopes.Builtin

open Regex JsonText

theorem mem_rulesAt {before tail : Text} {x : Char} {c : Candidate}
    (hc : c ∈ jsonGrammar.scan (before ++ x :: tail)) (hstart : c.start = before.size)
    : (c.rule, c.phase) ∈ rulesAt x := by
  rcases exists_of_mem_scan hc with ⟨front, y, rest, htext, hfront, hpattern⟩
  rcases Text.append_inj_of_size htext (hfront.symm.trans hstart) with ⟨-, heq⟩
  cases heq
  exact hpattern

/-- Whether no escape reaches over a place. -/
def Aligned (text : Text) (offset : Nat) : Prop :=
  escapeRegex.IsClear text offset ∧ illegalEscapeRegex.IsClear text offset

theorem Aligned.append {before w after : Text} (h : Aligned (before ++ (w ++ after)) before.size)
    (hw : '\\' ∉ w) : Aligned (before ++ (w ++ after)) (before ++ w).size := by
  have hlead {es : List Expr} (c : Char) (v : Text)
      (hspells : (Expr.concat (.literal ['\\'] :: es)).Spells (c :: v)) : c ∉ w := by
    rcases hspells with ⟨_, b, heq, rfl, -⟩
    cases heq
    exact hw
  exact ⟨h.1.append hlead, h.2.append hlead⟩

/-- What the tokenizer does in a piece of a text that no escape reaches into. -/
def Passes (before w after : Text) (frames frames' : List Frame) (spans : List Span) : Prop :=
  Aligned (before ++ (w ++ after)) before.size →
    Aligned (before ++ (w ++ after)) (before ++ w).size
      ∧ jsonGrammar.Moves (before ++ (w ++ after)) before.size (before ++ w).size frames frames'
          spans

/-- Whether the tokenizer makes the given spans, in their order, of a piece of a text, and what is
open stays so. -/
structure Reads (before w after : Text) (frames : List Frame) (spans : List Span) : Prop where
  inOrder : Span.InOrder before.size (before ++ w).size spans
  passes : Passes before w after frames frames spans

theorem nodup_scanOrder : jsonGrammar.resolution.scanOrder.Nodup := by decide

section Pieces

variable {before v w after : Text} {frames frames' frames'' : List Frame} {spans spans' : List Span}

theorem Passes.trans (h : Passes before v (w ++ after) frames frames' spans)
    (h' : Passes (before ++ v) w after frames' frames'' spans')
    : Passes before (v ++ w) after frames frames'' (spans ++ spans') := by
  unfold Passes at *
  rw [List.append_assoc v, ← List.append_assoc before v w]
  rw [List.append_assoc before v] at h'
  intro haligned
  rcases h haligned with ⟨haligned, hmoves⟩
  rcases h' haligned with ⟨haligned, hmoves'⟩
  exact ⟨haligned, hmoves.trans hmoves' (by simp) (by simp)⟩

theorem Passes.perm (h : Passes before w after frames frames' spans) (hperm : spans.Perm spans')
    : Passes before w after frames frames' spans' :=
  fun haligned => ⟨(h haligned).1, (h haligned).2.perm hperm⟩

namespace Reads

theorem nil (before after : Text) (frames : List Frame) : Reads before [] after frames [] := by
  refine ⟨.nil _ _, ?_⟩
  intro haligned
  rw [List.append_nil]
  exact ⟨haligned, .refl _ _ _ _⟩

theorem append (h : Reads before v (w ++ after) frames spans)
    (h' : Reads (before ++ v) w after frames spans')
    : Reads before (v ++ w) after frames (spans ++ spans') := by
  refine ⟨?_, h.passes.trans h'.passes⟩
  rw [← List.append_assoc]
  exact h.inOrder.append h'.inOrder (by simp) (by simp)

theorem of_skips (hw : '\\' ∉ w)
    (h : ∀ x ∈ w, ∀ c : Candidate, (c.rule, c.phase) ∈ rulesAt x → jsonGrammar.Skips frames c)
    : Reads before w after frames [] := by
  refine ⟨.nil _ _, ?_⟩
  intro haligned
  refine ⟨haligned.append hw, Grammar.Moves.of_skips (by simp) ?_⟩
  intro c hc hstart hstop
  rcases exists_of_mem_scan hc with ⟨front, x, rest, htext, hfront, hpattern⟩
  rw [hfront] at hstart hstop
  exact h x (Text.mem_of_append_eq htext hstart hstop) c hpattern

end Reads

end Pieces

theorem rulesAt_blank (blank : Blank) : rulesAt blank.char = [] := by
  cases blank with
  | space => rfl
  | tab => rfl
  | lineFeed => rfl
  | carriageReturn => rfl

theorem reads_blanks (before after : Text) (frames : List Frame) (blanks : List Blank)
    : Reads before (blanksText blanks) after frames [] := by
  apply Reads.of_skips
  . intro hmem
    rcases List.mem_map.mp hmem with ⟨blank, -, hblank⟩
    cases blank with
    | space | tab | lineFeed | carriageReturn => exact absurd hblank (by decide)
  . intro x hx c hpattern
    rcases List.mem_map.mp hx with ⟨blank, -, rfl⟩
    rw [rulesAt_blank] at hpattern
    contradiction

section Tokens

variable {before w after : Text} {frames : List Frame}

theorem moves_matching (id : RuleId) {scope : String} {regex : Regex}
    (hrule : jsonGrammar.rule? id = some (matchingRule scope regex))
    (hid : id ∈ jsonGrammar.resolution.scanOrder)
    (hactive : (jsonGrammar.activeIn frames).any (·.contains id))
    (hhit : Hit.whole before.size (before.size + w.size) ∈ regex.hits (before ++ (w ++ after)))
    (hw : w ≠ [])
    (hfirst : ∀ d ∈ jsonGrammar.scan (before ++ (w ++ after)), d.start = before.size →
      (d.rule = id ∧ d.phase = .matching) ∨ jsonGrammar.Skips frames d
        ∨ [⟨id, .matching, .whole before.size (before.size + w.size)⟩, d].Sublist
            (jsonGrammar.scan (before ++ (w ++ after))))
    : jsonGrammar.Moves (before ++ (w ++ after)) before.size (before ++ w).size frames frames
        [⟨scope :: jsonGrammar.scopesIn frames, before.size, before.size + w.size⟩] := by
  let c : Candidate := ⟨id, .matching, .whole before.size (before.size + w.size)⟩
  have hc : c ∈ jsonGrammar.scan (before ++ (w ++ after)) := Grammar.mem_scan hid hrule rfl hhit
  have hlt : before.size < before.size + w.size := Nat.lt_add_of_pos_right (Text.size_pos hw)
  have hspans : jsonGrammar.tokenSpans (jsonGrammar.scopesIn frames) c
      = [⟨scope :: jsonGrammar.scopesIn frames, before.size, before.size + w.size⟩] := by
    have hspan : spanOf (scope :: jsonGrammar.scopesIn frames) c.start c.stop
        = [⟨scope :: jsonGrammar.scopesIn frames, before.size, before.size + w.size⟩] := if_pos hlt
    unfold Grammar.tokenSpans
    rw [hrule]
    exact hspan
  rw [Text.size_append, ← hspans]
  apply Grammar.Moves.of_token nodup_scanOrder hc hlt _ rfl hactive
  intro d hd hstart
  rcases hfirst d hd hstart with ⟨hrule, hphase⟩ | hothers
  . exact Or.inl (Grammar.eq_of_mem_scan hc hd hrule hphase hstart)
  . exact Or.inr hothers

theorem reads_matching (id : RuleId) {scope : String} {regex : Regex}
    (hrule : jsonGrammar.rule? id = some (matchingRule scope regex))
    (hid : id ∈ jsonGrammar.resolution.scanOrder)
    (hactive : (jsonGrammar.activeIn frames).any (·.contains id))
    (hhit : Hit.whole before.size (before.size + w.size) ∈ regex.hits (before ++ (w ++ after)))
    (hbegins : BeginsAt regex.expr (id, .matching)) (havoids : regex.expr.avoids ['\\'])
    (hothers : ∀ x tail, w = x :: tail → (id, Phase.matching) ∈ rulesAt x → ∀ d : Candidate,
      (d.rule, d.phase) ∈ rulesAt x →
        (d.rule = id ∧ d.phase = .matching) ∨ jsonGrammar.Skips frames d)
    : Reads before w after frames
        [⟨scope :: jsonGrammar.scopesIn frames, before.size, before.size + w.size⟩] := by
  have hspells := spells_of_whole_mem_hits hhit
  rcases hbegins w hspells with ⟨x, tail, rfl, hx⟩
  constructor
  . rw [Text.size_append]
    exact .singleton _ (Nat.lt_add_of_pos_right (Text.size_pos nofun))
  . intro haligned
    have hplain : '\\' ∉ x :: tail := fun hmem =>
      Expr.not_mem_of_avoids regex.expr havoids _ hspells _ hmem (List.mem_singleton_self _)
    refine ⟨haligned.append hplain, moves_matching id hrule hid hactive hhit nofun ?_⟩
    intro d hd hstart
    rcases hothers x tail rfl hx d (mem_rulesAt hd hstart) with h | h
    . exact Or.inl h
    . exact Or.inr (Or.inl h)

end Tokens

theorem rulesAt_eq_singleton {id : RuleId} (hid : id = 6 ∨ id = 10 ∨ id = 12) {x : Char}
    (hx : (id, Phase.matching) ∈ rulesAt x) : rulesAt x = [(id, .matching)] := by
  revert hx
  unfold rulesAt
  split
  case h_15 =>
    split
    . intro hx
      rw [List.mem_singleton.mp hx]
    . exact nofun
  all_goals rcases hid with rfl | rfl | rfl
  all_goals decide

theorem eq_of_mem_rulesAt {id : RuleId} (hid : id = 6 ∨ id = 10 ∨ id = 12) {x : Char}
    (hx : (id, Phase.matching) ∈ rulesAt x) {d : Candidate} (hd : (d.rule, d.phase) ∈ rulesAt x)
    : d.rule = id ∧ d.phase = .matching := by
  rw [rulesAt_eq_singleton hid hx, List.mem_singleton] at hd
  exact Prod.mk.inj hd

structure ValueMayStand (frames : List Frame) : Prop where
  active : ∀ id ∈ jsonValueRules, (jsonGrammar.activeIn frames).any (·.contains id)
  notInString : frames.head?.map (·.rule) ≠ some Delimiters.string.id

section Values

variable {before after : Text} {frames : List Frame}

theorem reads_number (number : Number) (hframes : ValueMayStand frames)
    (hprev : IsOneOf delimiters before.getLast?) (hnext : IsOneOf delimiters after.head?)
    : Reads before number.text after frames
        [⟨"constant.numeric.json" :: jsonGrammar.scopesIn frames, before.size,
          before.size + number.text.size⟩] := by
  have hclear : numberRegex.IsClear (before ++ (number.text ++ after)) before.size :=
    isClear_of_avoids rfl hprev
  have hhit := whole_mem_hits rfl hclear (prefers_number _ number hnext)
  refine reads_matching 10 rfl (by decide) (hframes.active 10 (by decide)) hhit
    beginsAt_numberRegex rfl ?_
  intro x tail _ hx d hd
  exact Or.inl (eq_of_mem_rulesAt (by decide) hx hd)

theorem reads_constant (constant : Constant) (hframes : ValueMayStand frames)
    (hprev : IsOneOf delimiters before.getLast?) (hnext : IsOneOf delimiters after.head?)
    : Reads before constant.text after frames
        [⟨"constant.language.json" :: jsonGrammar.scopesIn frames, before.size,
          before.size + constant.text.size⟩] := by
  have hclear : constantRegex.IsClear (before ++ (constant.text ++ after)) before.size :=
    isClear_of_avoids rfl hprev
  have hhit := whole_mem_hits rfl hclear (prefers_constant constant hprev hnext)
  refine reads_matching 6 rfl (by decide) (hframes.active 6 (by decide)) hhit
    beginsAt_constantRegex rfl ?_
  intro x tail _ hx d hd
  exact Or.inl (eq_of_mem_rulesAt (by decide) hx hd)

end Values

theorem reads_separator (id : RuleId) {scope pattern : String} {c : Char} {active : List RuleId}
    {frames : List Frame} (hframes : jsonGrammar.activeIn frames = some ⟨active⟩)
    (hrule : jsonGrammar.rule? id = some (matchingRule scope ⟨pattern, .literal [c]⟩))
    (hid : id ∈ jsonGrammar.resolution.scanOrder) (hactive : id ∈ active)
    (hc : (id, Phase.matching) ∈ rulesAt c) (hplain : c ≠ '\\')
    (hothers : ∀ pattern ∈ rulesAt c,
      pattern = (id, .matching) ∨ (pattern.2 = .matching ∧ pattern.1 ∉ active))
    (before after : Text)
    : Reads before [c] after frames
        [⟨scope :: jsonGrammar.scopesIn frames, before.size, before.size + Text.size [c]⟩] := by
  have hany (id : RuleId) : (jsonGrammar.activeIn frames).any (·.contains id) ↔ id ∈ active := by
    rw [hframes]
    exact List.contains_iff_mem
  refine reads_matching id hrule hid ((hany id).mpr hactive)
    (whole_mem_hits_char pattern before c after) (beginsAt_literal hc) ?_ ?_
  . simpa [Expr.avoids] using hplain
  . rintro x tail ⟨⟩ - d hd
    rcases hothers _ hd with heq | ⟨hphase, hinactive⟩
    . exact Or.inl (Prod.mk.inj heq)
    . right
      refine ⟨fun hcloses => ?_, Or.inr fun h => hinactive ((hany d.rule).mp h)⟩
      cases hphase.symm.trans hcloses.1

end TextScopes.Builtin
