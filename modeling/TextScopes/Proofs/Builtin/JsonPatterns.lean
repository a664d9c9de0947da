import TextScopes.Proofs.Builtin.JsonRules
import TextScopes.Proofs.Regex.Prefers
import TextScopes.Proofs.Tokenizer.Stretch

/-!
This module contains what the patterns of the grammar of JSON match: the characters that a match of
each pattern can begin with, and the tokens that the patterns prefer.
-/

namespace TextScopes.Builtin

open Regex JsonText

/-- The rules that have a pattern with matches that begin with a character. -/
def rulesAt (c : Char) : List (RuleId × Phase) :=
  match c with
  | ',' => [(1, .matching), (13, .matching)]
  | ':' => [(12, .matching)]
  | '[' => [(2, .opening)]
  | ']' => [(2, .closing)]
  | '\x7b' => [(14, .opening)]
  | '\x7d' => [(14, .closing)]
  | '"' => [(16, .opening), (16, .closing)]
  | '\\' => [(7, .matching), (8, .matching)]
  | '/' => [(3, .opening), (4, .matching)]
  | '*' => [(3, .closing)]
  | 't' | 'f' | 'n' => [(6, .matching)]
  | '-' => [(10, .matching)]
  | c => if IsDigit c then [(10, .matching)] else []

theorem rulesAt_of_isDigit {c : Char} (h : IsDigit c) : rulesAt c = [(10, .matching)] := by
  unfold rulesAt
  split
  case h_14 => rfl
  case h_15 => rw [if_pos h]
  all_goals contradiction

theorem contains_digitChars {c : Char} : digitChars.contains c ↔ IsDigit c := by
  have hle (a b : Char) : a ≤ b ↔ a.toNat ≤ b.toNat := Iff.rfl
  simp only [digitChars, CharSet.contains, CharSet.covers, IsDigit, hle]
  split
  . simp
    omega
  . simp
    omega

theorem contains_firstDigitChars {c : Char}
    : firstDigitChars.contains c ↔ '1' ≤ c ∧ c ≤ '9' := by
  have hle (a b : Char) : a ≤ b ↔ a.toNat ≤ b.toNat := Iff.rfl
  simp only [firstDigitChars, CharSet.contains, CharSet.covers, hle]
  split
  . simp
    omega
  . simp
    omega

theorem isDigit_of_first {c : Char} (h : '1' ≤ c ∧ c ≤ '9') : IsDigit c :=
  ⟨Nat.le_trans (by decide : '0'.toNat ≤ '1'.toNat) h.1, h.2⟩

/-- Whether all words of an expression begin with a character that belongs to a pattern. -/
def BeginsAt (e : Expr) (pattern : RuleId × Phase) : Prop :=
  ∀ w, e.Spells w → ∃ c v, w = c :: v ∧ pattern ∈ rulesAt c

theorem beginsAt_literal {c : Char} {chars : List Char} {pattern : RuleId × Phase}
    (h : pattern ∈ rulesAt c) : BeginsAt (.literal (c :: chars)) pattern := by
  rintro w rfl
  exact ⟨c, chars, rfl, h⟩

theorem beginsAt_concat {e : Expr} {es : List Expr} {pattern : RuleId × Phase}
    (h : BeginsAt e pattern) : BeginsAt (.concat (e :: es)) pattern := by
  rintro w ⟨a, b, rfl, ha, -⟩
  rcases h a ha with ⟨c, v, rfl, hc⟩
  exact ⟨c, v ++ b, rfl, hc⟩

theorem beginsAt_constantRegex : BeginsAt constantRegex.expr (6, .matching) := by
  rintro w ⟨a, b, rfl, rfl, a', b', rfl, ha', -⟩
  rcases ha' with rfl | rfl | rfl | hfalse
  . exact ⟨_, _, rfl, by decide⟩
  . exact ⟨_, _, rfl, by decide⟩
  . exact ⟨_, _, rfl, by decide⟩
  . contradiction

theorem beginsAt_wholeExpr : BeginsAt wholeExpr (10, .matching) := by
  rintro w (rfl | ⟨a, b, rfl, ⟨c, hc, rfl⟩, -⟩ | hfalse)
  . exact ⟨'0', [], rfl, by decide⟩
  . rw [contains_firstDigitChars] at hc
    refine ⟨c, b, rfl, ?_⟩
    rw [rulesAt_of_isDigit (isDigit_of_first hc)]
    exact List.mem_singleton_self _
  . contradiction

theorem beginsAt_numberRegex : BeginsAt numberRegex.expr (10, .matching) := by
  rintro w ⟨a, b, rfl, ⟨words, hwords, rfl⟩, hb⟩
  cases words with
  | nil => exact beginsAt_concat beginsAt_wholeExpr b hb
  | cons v words =>
    have hv : v = ['-'] := hwords v List.mem_cons_self
    subst hv
    exact ⟨'-', _, rfl, by decide⟩

/-- Whether the matches of a rule begin with characters that belong to it. -/
def Rule.BeginsAt (rule : Rule) (id : RuleId) : Prop :=
  match rule.kind with
  | .matching regex _ => Builtin.BeginsAt regex.expr (id, .matching)
  | .region region =>
    Builtin.BeginsAt region.opening.expr (id, .opening)
      ∧ Builtin.BeginsAt region.closing.expr (id, .closing)
  | _ => True

theorem exists_of_mem_candidates {rule : Rule} {id : RuleId} (h : Rule.BeginsAt rule id)
    {text : Text} {c : Candidate} (hc : c ∈ rule.candidates id text)
    : ∃ (before : Text) (x : Char) (tail : Text), before ++ x :: tail = text
        ∧ c.start = before.size ∧ (c.rule, c.phase) ∈ rulesAt x := by
  have hhit {regex : Regex} {phase : Phase} (h : BeginsAt regex.expr (id, phase)) {hit : Hit}
      (hhit : hit ∈ regex.hits text)
      : ∃ (before : Text) (x : Char) (tail : Text), before ++ x :: tail = text
          ∧ hit.start = before.size ∧ (id, phase) ∈ rulesAt x := by
    rcases exists_word_of_mem_hits hhit with ⟨before, w, after, rfl, hw, hstart, -⟩
    rcases h w hw with ⟨x, v, rfl, hx⟩
    exact ⟨before, x, v ++ after, rfl, hstart, hx⟩
  unfold Rule.candidates at hc
  unfold Rule.BeginsAt at h
  split at hc
  . next regex captures hkind =>
    rw [hkind] at h
    rcases List.mem_map.mp hc with ⟨hit, hmem, rfl⟩
    exact hhit h hmem
  . next region hkind =>
    rw [hkind] at h
    rcases List.mem_append.mp hc with hc | hc
    . rcases List.mem_map.mp hc with ⟨hit, hmem, rfl⟩
      exact hhit h.1 hmem
    . rcases List.mem_map.mp hc with ⟨hit, hmem, rfl⟩
      exact hhit h.2 hmem
  . contradiction

theorem beginsAt_of_mem_scanOrder {id : RuleId} (hid : id ∈ jsonResolution.scanOrder) {rule : Rule}
    (hrule : jsonGrammar.rule? id = some rule) : Rule.BeginsAt rule id := by
  have hescape {e : Expr} {es : List Expr} {id : RuleId} (h : (id, Phase.matching) ∈ rulesAt '\\')
      : BeginsAt (.concat (.literal ['\\'] :: es)) (id, .matching) :=
    beginsAt_concat (beginsAt_literal h)
  simp only [jsonResolution, jsonValueRules, List.cons_append, List.nil_append, List.mem_cons,
    List.not_mem_nil, or_false] at hid
  rcases hid with rfl | rfl | rfl | rfl | rfl | rfl | rfl | rfl | rfl | rfl | rfl | rfl
  all_goals cases hrule
  . exact ⟨beginsAt_literal (by decide), beginsAt_literal (by decide)⟩
  . exact beginsAt_concat (beginsAt_literal (by decide))
  . exact beginsAt_constantRegex
  . exact beginsAt_numberRegex
  . exact ⟨beginsAt_literal (by decide), beginsAt_literal (by decide)⟩
  . exact ⟨beginsAt_literal (by decide), beginsAt_literal (by decide)⟩
  . exact ⟨beginsAt_literal (by decide), beginsAt_literal (by decide)⟩
  . exact beginsAt_concat (beginsAt_literal (by decide))
  . exact beginsAt_concat (beginsAt_literal (by decide))
  . exact beginsAt_literal (by decide)
  . exact beginsAt_literal (by decide)
  . exact beginsAt_literal (by decide)

theorem exists_of_mem_scan {text : Text} {c : Candidate} (hc : c ∈ jsonGrammar.scan text)
    : ∃ (before : Text) (x : Char) (tail : Text), before ++ x :: tail = text
        ∧ c.start = before.size ∧ (c.rule, c.phase) ∈ rulesAt x := by
  rcases Grammar.mem_scan_iff.mp hc with ⟨hid, rule, hrule, hc⟩
  exact exists_of_mem_candidates (beginsAt_of_mem_scanOrder hid hrule) hc

end TextScopes.Builtin
