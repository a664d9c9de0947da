import TextScopes.Proofs.Regex.LineHits
import TextScopes.Proofs.Regex.Words

/-!
This module contains how matches lie in a text. They stand one behind the other, and what matches at
a place is found unless a match from further left reaches over that place.
-/

namespace TextScopes.Regex

def Cursor.between (before rest : Text) : Cursor := ⟨before.getLast?, rest, before.size⟩

namespace Cursor.onward

theorem mem_go_iff {prev : Option Char} {offset : Nat} {text : Text} {cursor : Cursor}
    : cursor ∈ go prev offset text
        ↔ ∃ before rest, before ++ rest = text
          ∧ cursor = ⟨before.getLast?.or prev, rest, offset + before.size⟩ := by
  induction text generalizing prev offset with
  | nil =>
    rw [go, List.mem_singleton]
    constructor
    . rintro rfl
      exact ⟨[], [], rfl, rfl⟩
    . rintro ⟨before, rest, htext, rfl⟩
      rcases List.append_eq_nil_iff.mp htext with ⟨rfl, rfl⟩
      rfl
  | cons c text ih =>
    rw [go, List.mem_cons, ih]
    constructor
    . rintro (rfl | ⟨before, rest, rfl, rfl⟩)
      . exact ⟨[], c :: text, rfl, rfl⟩
      . refine ⟨c :: before, rest, rfl, ?_⟩
        cases hlast : before.getLast? with
        | none => simp [List.getLast?_cons, hlast, Nat.add_assoc]
        | some last => simp [List.getLast?_cons, hlast, Nat.add_assoc]
    . rintro ⟨before, rest, htext, rfl⟩
      cases before with
      | nil =>
        left
        rw [← htext]
        rfl
      | cons d before =>
        cases htext
        refine Or.inr ⟨before, rest, rfl, ?_⟩
        cases hlast : before.getLast? with
        | none => simp [List.getLast?_cons, hlast, Nat.add_assoc]
        | some last => simp [List.getLast?_cons, hlast, Nat.add_assoc]

theorem pairwise_go (prev : Option Char) (offset : Nat) (text : Text)
    : (go prev offset text).Pairwise fun a b => a.offset < b.offset := by
  induction text generalizing prev offset with
  | nil => exact List.pairwise_singleton _ _
  | cons c text ih =>
    rw [go, List.pairwise_cons]
    refine ⟨?_, ih (some c) (offset + c.utf8Size)⟩
    intro cursor hcursor
    rcases mem_go_iff.mp hcursor with ⟨before, rest, -, rfl⟩
    have := c.utf8Size_pos
    dsimp only
    omega

end Cursor.onward

theorem Cursor.mem_onward_iff {text : Text} {cursor : Cursor}
    : cursor ∈ (Cursor.start text).onward
        ↔ ∃ before rest, before ++ rest = text ∧ cursor = .between before rest := by
  unfold Cursor.onward Cursor.start Cursor.between
  simp [Cursor.onward.mem_go_iff]

variable {re : Regex} {text before rest : Text} {hit : Hit}

theorem start_of_matchAt? {cursor : Cursor} (h : re.matchAt? cursor = some hit)
    : hit.start = cursor.offset := by
  rcases Option.map_eq_some_iff.mp h with ⟨t, -, rfl⟩
  rfl

theorem exists_word_of_matchAt? {cursor : Cursor} (h : re.matchAt? cursor = some hit)
    : ∃ w behind, cursor.rest = w ++ behind ∧ re.expr.Spells w
        ∧ hit.stop = cursor.offset + w.size := by
  rcases Option.map_eq_some_iff.mp h with ⟨t, ht, rfl⟩
  rcases exists_word_of_mem_ends re.expr [] _ t (List.mem_of_mem_head? ht) with ⟨w, hw, hread⟩
  exact ⟨w, t.cursor.rest, hread.1, hw, hread.2⟩

namespace hits

theorem le_start_of_mem_go {from_ : Nat} {cursors : List Cursor} (h : hit ∈ go re from_ cursors)
    : from_ ≤ hit.start := by
  fun_induction go re from_ cursors with
  | case1 => contradiction
  | case2 from_ cursor cursors hlt ih => exact ih h
  | case3 from_ cursor cursors hlt first hfirst ih =>
    have hstart := start_of_matchAt? hfirst
    rcases exists_word_of_matchAt? hfirst with ⟨w, behind, -, -, hstop⟩
    cases h with
    | head => omega
    | tail _ h =>
      have := ih h
      omega
  | case4 from_ cursor cursors hlt hnone ih => exact ih h

theorem pairwise_go {from_ : Nat} {cursors : List Cursor}
    (hcursors : cursors.Pairwise fun a b => a.offset < b.offset)
    : (go re from_ cursors).Pairwise fun a b => a.stop ≤ b.start ∧ a.start < b.start := by
  fun_induction go re from_ cursors with
  | case1 => exact List.Pairwise.nil
  | case2 from_ cursor cursors hlt ih => exact ih hcursors.of_cons
  | case3 from_ cursor cursors hlt first hfirst ih =>
    rw [List.pairwise_cons] at *
    refine ⟨?_, ih hcursors.2⟩
    intro later hlater
    rcases exists_of_mem_go hlater with ⟨c, hc, hmatch⟩
    rw [start_of_matchAt? hfirst, start_of_matchAt? hmatch]
    exact ⟨start_of_matchAt? hmatch ▸ le_start_of_mem_go hlater, hcursors.1 c hc⟩
  | case4 from_ cursor cursors hlt hnone ih => exact ih hcursors.of_cons

theorem mem_go {from_ : Nat} {cursor : Cursor} {cursors : List Cursor}
    (hcursors : cursors.Pairwise fun a b => a.offset < b.offset) (hcursor : cursor ∈ cursors)
    (hfrom : from_ ≤ cursor.offset)
    (hclear : ∀ found ∈ go re from_ cursors, found.start < cursor.offset
      → found.stop ≤ cursor.offset)
    (h : re.matchAt? cursor = some hit) : hit ∈ go re from_ cursors := by
  fun_induction go re from_ cursors with
  | case1 => contradiction
  | case2 from_ head cursors hlt ih =>
    cases hcursor with
    | head => omega
    | tail _ hcursor => exact ih hcursors.of_cons hcursor hfrom hclear
  | case3 from_ head cursors hlt first hfirst ih =>
    cases hcursor with
    | head =>
      rw [h] at hfirst
      cases hfirst
      exact List.mem_cons_self
    | tail _ hcursor =>
      rw [List.pairwise_cons] at hcursors
      have hstart := start_of_matchAt? hfirst
      have hlt := hcursors.1 cursor hcursor
      apply List.mem_cons_of_mem
      exact ih hcursors.2 hcursor (hclear first List.mem_cons_self (by omega))
        fun found hfound => hclear found (List.mem_cons_of_mem _ hfound)
  | case4 from_ head cursors hlt hnone ih =>
    cases hcursor with
    | head =>
      rw [h] at hnone
      contradiction
    | tail _ hcursor => exact ih hcursors.of_cons hcursor hfrom hclear

end hits

theorem pairwise_hits (re : Regex) (text : Text)
    : (re.hits text).Pairwise fun a b => a.stop ≤ b.start ∧ a.start < b.start :=
  hits.pairwise_go (Cursor.onward.pairwise_go none 0 text)

theorem exists_word_of_mem_hits (h : hit ∈ re.hits text)
    : ∃ before w after, before ++ (w ++ after) = text ∧ re.expr.Spells w
        ∧ hit.start = before.size ∧ hit.stop = before.size + w.size := by
  rcases hits.exists_of_mem_go h with ⟨cursor, hcursor, hmatch⟩
  rcases Cursor.mem_onward_iff.mp hcursor with ⟨before, rest, htext, rfl⟩
  rcases exists_word_of_matchAt? hmatch with ⟨w, after, hrest, hw, hstop⟩
  exact ⟨before, w, after, by rw [← hrest]; exact htext, hw, start_of_matchAt? hmatch, hstop⟩

/-- Whether no match reaches over a place. -/
def IsClear (re : Regex) (text : Text) (offset : Nat) : Prop :=
  ∀ hit ∈ re.hits text, hit.start < offset → hit.stop ≤ offset

theorem mem_hits (hclear : re.IsClear (before ++ rest) before.size)
    (h : re.matchAt? (.between before rest) = some hit) : hit ∈ re.hits (before ++ rest) := by
  have hcursor : Cursor.between before rest ∈ (Cursor.start (before ++ rest)).onward :=
    Cursor.mem_onward_iff.mpr ⟨before, rest, rfl, rfl⟩
  exact hits.mem_go (Cursor.onward.pairwise_go none 0 _) hcursor (Nat.zero_le _) hclear h

theorem IsClear.zero (re : Regex) (text : Text) : re.IsClear text 0 := fun _ _ h => absurd h nofun

theorem separated_of_mem_hits {other : Hit} (h : hit ∈ re.hits text) (hother : other ∈ re.hits text)
    : other = hit ∨ (other.stop ≤ hit.start ∧ other.start < hit.start)
        ∨ (hit.stop ≤ other.start ∧ hit.start < other.start) := by
  by_cases heq : other = hit
  . exact Or.inl heq
  . have hordered : (re.hits text).Pairwise fun a b =>
        (a.stop ≤ b.start ∧ a.start < b.start) ∨ (b.stop ≤ a.start ∧ b.start < a.start) :=
      (re.pairwise_hits text).imp Or.inl
    have : Std.Symm fun a b : Hit =>
        (a.stop ≤ b.start ∧ a.start < b.start) ∨ (b.stop ≤ a.start ∧ b.start < a.start) :=
      ⟨fun _ _ => Or.symm⟩
    exact Or.inr (hordered.forall hother h heq)

theorem isClear_start (h : hit ∈ re.hits text) : re.IsClear text hit.start := by
  intro other hother hlt
  rcases separated_of_mem_hits h hother with rfl | hbefore | hbehind
  . exact absurd hlt (Nat.lt_irrefl _)
  . exact hbefore.1
  . omega

theorem isClear_stop (h : hit ∈ re.hits text) : re.IsClear text hit.stop := by
  intro other hother hlt
  rcases exists_word_of_mem_hits h with ⟨before, w, after, -, -, hstart, hstop⟩
  rcases separated_of_mem_hits h hother with rfl | hbefore | hbehind
  . exact Nat.le_refl _
  . omega
  . omega

theorem isClear_of_not_spells
    (h : ∀ a b, a ≠ [] → b ≠ [] → a <:+ before → b <+: rest → ¬ re.expr.Spells (a ++ b))
    : re.IsClear (before ++ rest) before.size := by
  intro hit hhit hlt
  rcases exists_word_of_mem_hits hhit with ⟨front, w, after, htext, hw, hstart, hstop⟩
  rw [hstart] at hlt
  rcases List.append_eq_append_iff.mp htext with ⟨a, hbefore, hrest⟩ | ⟨a, hfront, -⟩
  . rcases List.append_eq_append_iff.mp hrest with ⟨b, hwa, hrest⟩ | ⟨b, hwa, hrest⟩
    . -- the word ends in front of the place
      rw [hstop, hbefore, hwa]
      simp
    . by_cases hb : b = []
      . subst hb
        rw [hstop, hbefore, hwa]
        simp
      . exfalso
        have ha : a ≠ [] := by
          rintro rfl
          rw [hbefore, List.append_nil] at hlt
          exact Nat.lt_irrefl _ hlt
        rw [hwa] at hw
        exact h a b ha hb ⟨front, hbefore.symm⟩ ⟨after, hrest.symm⟩ hw
  . rw [hfront, Text.size_append] at hlt
    omega

theorem isClear_of_avoids {stops : List Char} (h : re.expr.avoids stops)
    (hlast : ∀ c, before.getLast? = some c → c ∈ stops)
    : re.IsClear (before ++ rest) before.size := by
  apply isClear_of_not_spells
  rintro a b ha - ⟨front, rfl⟩ - hspells
  have hmem := List.getLast_mem ha
  apply Expr.not_mem_of_avoids re.expr h (a ++ b) hspells _ (List.mem_append_left b hmem)
  apply hlast
  rw [List.getLast?_append, List.getLast?_eq_some_getLast ha]
  rfl

theorem isClear_of_avoids_next {stops : List Char} (h : re.expr.avoids stops)
    (hnext : ∀ c, rest.head? = some c → c ∈ stops)
    : re.IsClear (before ++ rest) before.size := by
  apply isClear_of_not_spells
  rintro a b - hb - ⟨tail, rfl⟩ hspells
  have hmem := List.head_mem hb
  apply Expr.not_mem_of_avoids re.expr h (a ++ b) hspells _ (List.mem_append_right a hmem)
  apply hnext
  rw [List.head?_append, List.head?_eq_some_head hb]
  rfl

theorem isClear_of_literal {c : Char} (h : re.expr = .literal [c])
    : re.IsClear (before ++ rest) before.size := by
  apply isClear_of_not_spells
  intro a b ha hb _ _ hspells
  rw [h] at hspells
  have hlength : (a ++ b).length = 1 := congrArg List.length hspells
  have := List.length_pos_iff.mpr ha
  have := List.length_pos_iff.mpr hb
  rw [List.length_append] at hlength
  omega

theorem IsClear.append {w after : Text}
    (h : re.IsClear (before ++ (w ++ after)) before.size)
    (hlead : ∀ c v, re.expr.Spells (c :: v) → c ∉ w)
    : re.IsClear (before ++ (w ++ after)) (before ++ w).size := by
  intro hit hhit hlt
  by_cases hstart : hit.start < before.size
  . exact Nat.le_trans (h hit hhit hstart) (by simp)
  . rcases exists_word_of_mem_hits hhit with ⟨front, v, tail, htext, hv, hfront, hstop⟩
    cases v with
    | nil =>
      rw [hstop, Text.size_nil, Nat.add_zero, ← hfront]
      exact Nat.le_of_lt hlt
    | cons c v =>
      exfalso
      rw [hfront] at hlt hstart
      exact hlead c v hv (Text.mem_of_append_eq htext (Nat.not_lt.mp hstart) hlt)

end TextScopes.Regex
