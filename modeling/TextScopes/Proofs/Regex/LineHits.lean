import TextScopes.Proofs.Regex.Hits
import TextScopes.Proofs.Regex.Line

/-!
This module contains the matches in a text of several lines: a pattern that stays in its line has
the matches that it has in each part of the text.
-/

namespace TextScopes.Regex

def Hit.shift (offset : Nat) (hit : Hit) : Hit :=
  ⟨hit.start + offset, hit.stop + offset,
    hit.groups.map (Option.map fun (start, stop) => (start + offset, stop + offset))⟩

theorem lookup_map {α β : Type} (f : α → β) {entries : List (Nat × α)} {key : Nat}
    : (entries.map fun entry => (entry.1, f entry.2)).lookup key = (entries.lookup key).map f := by
  induction entries with
  | nil => rfl
  | cons entry rest ih =>
    rw [List.map_cons, List.lookup_cons, List.lookup_cons, ih]
    split
    . rfl
    . rfl

theorem Thread.hit_within {around : Surroundings} (start groupCount : Nat) (t : Thread)
    : (t.within around).hit (start + around.offset) groupCount
      = (t.hit start groupCount).shift around.offset := by
  unfold Thread.hit Hit.shift
  have hlookup (i : Nat) : (t.within around).groups.lookup i
      = (t.groups.lookup i).map fun r => (r.1 + around.offset, r.2 + around.offset) :=
    lookup_map fun r : Nat × Nat => (r.1 + around.offset, r.2 + around.offset)
  simp only [hlookup, List.map_cons, List.map_map]
  rfl

theorem matchAt?_within {around : Surroundings} (haround : around.AreLines) {re : Regex}
    (hre : re.expr.staysInLine) (cursor : Cursor)
    : re.matchAt? (cursor.within around)
      = (re.matchAt? cursor).map (Hit.shift around.offset) := by
  have hends := ends_within haround re.expr hre [] ⟨cursor, [], []⟩
  have hstart : (⟨cursor, [], []⟩ : Thread).within around = ⟨cursor.within around, [], []⟩ := rfl
  rw [hstart] at hends
  unfold matchAt?
  rw [hends, List.head?_map, Option.map_map, Option.map_map]
  congr 1
  funext t
  exact Thread.hit_within cursor.offset re.groupCount t

namespace hits

variable {re : Regex}

theorem go_within {around : Surroundings} (haround : around.AreLines) (hre : re.expr.staysInLine)
    (from_ : Nat) (cursors : List Cursor)
    : go re (from_ + around.offset) (cursors.map (Cursor.within around))
      = (go re from_ cursors).map (Hit.shift around.offset) := by
  have hoffset (cursor : Cursor) : (cursor.within around).offset = cursor.offset + around.offset :=
    rfl
  fun_induction go re from_ cursors with
  | case1 => rfl
  | case2 from_ cursor cursors hlt ih =>
    rw [List.map_cons, go, hoffset, if_pos (by omega), ih]
  | case3 from_ cursor cursors hlt hit hhit ih =>
    rw [List.map_cons, go, hoffset, if_neg (by omega), matchAt?_within haround hre, hhit]
    dsimp only [Option.map_some]
    rw [List.map_cons, ← ih]
    rfl
  | case4 from_ cursor cursors hlt hnone ih =>
    rw [List.map_cons, go, hoffset, if_neg (by omega), matchAt?_within haround hre, hnone]
    exact ih

theorem go_eq_go {from_ from_' : Nat} {cursors : List Cursor}
    (h : ∀ cursor ∈ cursors, from_ ≤ cursor.offset)
    (h' : ∀ cursor ∈ cursors, from_' ≤ cursor.offset)
    : go re from_ cursors = go re from_' cursors := by
  induction cursors with
  | nil => rfl
  | cons cursor cursors ih =>
    have hle := h cursor List.mem_cons_self
    have hle' := h' cursor List.mem_cons_self
    rw [go, go, if_neg (by omega), if_neg (by omega)]
    split
    . rfl
    . apply ih
      . exact fun c hc => h c (List.mem_cons_of_mem cursor hc)
      . exact fun c hc => h' c (List.mem_cons_of_mem cursor hc)

theorem go_append {from_ from_' : Nat} {cursors cursors' : List Cursor}
    (hfrom : ∀ cursor ∈ cursors', from_ ≤ cursor.offset)
    (hfrom' : ∀ cursor ∈ cursors', from_' ≤ cursor.offset)
    (hstop : ∀ hit ∈ go re from_ cursors, ∀ cursor ∈ cursors', hit.stop ≤ cursor.offset)
    : go re from_ (cursors ++ cursors') = go re from_ cursors ++ go re from_' cursors' := by
  fun_induction go re from_ cursors with
  | case1 => exact go_eq_go hfrom hfrom'
  | case2 from_ cursor cursors hlt ih =>
    rw [List.cons_append, go, if_pos hlt]
    exact ih hfrom hstop
  | case3 from_ cursor cursors hlt hit hhit ih =>
    rw [List.cons_append, go, if_neg hlt, hhit]
    dsimp only
    rw [List.cons_append, ih]
    . exact hstop hit List.mem_cons_self
    . exact fun h hh => hstop h (List.mem_cons_of_mem hit hh)
  | case4 from_ cursor cursors hlt hnone ih =>
    rw [List.cons_append, go, if_neg hlt, hnone]
    exact ih hfrom hstop

end hits

namespace Cursor.onward

theorem go_append_line (prev : Option Char) (offset : Nat) (a b : Text)
    : go prev offset (a ++ '\n' :: b)
      = (go prev offset a).map (Cursor.within ⟨none, 0, '\n' :: b⟩)
        ++ go (some '\n') (offset + a.size + 1) b := by
  induction a generalizing prev offset with
  | nil => simp [go, Cursor.within, Char.utf8Size]
  | cons c rest ih => simp [go, Cursor.within, ih, Nat.add_assoc]

theorem go_within (prev : Option Char) (offset : Nat) (text : Text) (around : Surroundings)
    (hafter : around.after = [])
    : go (prev.or around.before) (offset + around.offset) text
      = (go prev offset text).map (Cursor.within around) := by
  induction text generalizing prev offset with
  | nil => simp [go, Cursor.within, hafter]
  | cons c rest ih =>
    have ih := ih (some c) (offset + c.utf8Size)
    simp only [Option.some_or] at ih
    simp [go, Cursor.within, hafter, ← ih, Nat.add_right_comm]

theorem le_offset_of_mem_go {prev : Option Char} {offset : Nat} {text : Text} {cursor : Cursor}
    (h : cursor ∈ go prev offset text) : offset ≤ cursor.offset := by
  induction text generalizing prev offset with
  | nil =>
    rw [go, List.mem_singleton] at h
    rw [h]
  | cons c rest ih =>
    rcases List.mem_cons.mp h with rfl | h
    . exact Nat.le_refl _
    . exact Nat.le_trans (Nat.le_add_right _ _) (ih h)

theorem exists_go_eq_append (prev : Option Char) (offset : Nat) (text : Text)
    : ∃ before last, go prev offset text = before ++ [⟨last, [], offset + text.size⟩] := by
  induction text generalizing prev offset with
  | nil => exact ⟨[], prev, rfl⟩
  | cons c rest ih =>
    rcases ih (some c) (offset + c.utf8Size) with ⟨before, last, h⟩
    exact ⟨⟨prev, c :: rest, offset⟩ :: before, last, by simp [go, h, Nat.add_assoc]⟩

end Cursor.onward

theorem exists_hit_at_end {re : Regex} (hgroups : re.expr.GroupsFrom 1) (text : Text)
    (h : ∀ cursor, cursor.rest = [] → ∃ hit, re.matchAt? cursor = some hit)
    : ∃ hit ∈ re.hits text, hit.start = text.size ∧ hit.stop = text.size := by
  rcases Cursor.onward.exists_go_eq_append none 0 text with ⟨before, last, honward⟩
  rw [Nat.zero_add] at honward
  have hcursors : (Cursor.start text).onward = before ++ [⟨last, [], text.size⟩] := honward
  have hmem {cursor : Cursor} (hcursor : cursor ∈ before ++ [⟨last, [], text.size⟩])
      : cursor.IsIn text := Cursor.isIn_of_mem_onward (hcursors ▸ hcursor)
  rcases h ⟨last, [], text.size⟩ rfl with ⟨hit, hhit⟩
  have hsound := isSound_of_matchAt? hgroups (hmem (by simp)) hhit
  have hstart : hit.start = text.size := by
    rcases Option.map_eq_some_iff.mp hhit with ⟨t, -, rfl⟩
    rfl
  have hle := hsound.le
  have hstop := hsound.isBoundary_stop.le_size
  have hbefore : ∀ found ∈ hits.go re 0 before, ∀ cursor ∈ [(⟨last, [], text.size⟩ : Cursor)],
      found.stop ≤ cursor.offset := by
    intro found hfound cursor hcursor
    rcases hits.exists_of_mem_go hfound with ⟨c, hc, hmatch⟩
    have hfound := isSound_of_matchAt? hgroups (hmem (List.mem_append_left _ hc)) hmatch
    rw [List.mem_singleton.mp hcursor]
    exact hfound.isBoundary_stop.le_size
  have hhits : re.hits text
      = hits.go re 0 before ++ hits.go re text.size [⟨last, [], text.size⟩] := by
    rw [hits, hcursors]
    exact hits.go_append (by simp) (by simp) hbefore
  have hlast : hits.go re text.size [⟨last, [], text.size⟩] = [hit] := by simp [hits.go, hhit]
  rw [hhits, hlast]
  exact ⟨hit, by simp, hstart, by omega⟩

/-- The matches in a text of two parts are those in each of them. -/
theorem hits_append_line {re : Regex} (hgroups : re.expr.GroupsFrom 1)
    (hre : re.expr.staysInLine) (a b : Text)
    : re.hits (a ++ '\n' :: b) = re.hits a ++ (re.hits b).map (Hit.shift (a.size + 1)) := by
  have hfirst : (Surroundings.mk none 0 ('\n' :: b)).AreLines := ⟨Or.inl rfl, Or.inr ⟨b, rfl⟩⟩
  have hsecond : (Surroundings.mk (some '\n') (a.size + 1) []).AreLines :=
    ⟨Or.inr rfl, Or.inl rfl⟩
  have hbefore : hits.go re 0 ((Cursor.start a).onward.map (Cursor.within ⟨none, 0, '\n' :: b⟩))
      = re.hits a := by
    have hgo := hits.go_within hfirst hre 0 (Cursor.start a).onward
    have hshift : Hit.shift 0 = id := by
      funext hit
      simp [Hit.shift]
    rw [hshift, List.map_id] at hgo
    exact hgo
  have hbehind : hits.go re (a.size + 1) (Cursor.onward.go (some '\n') (a.size + 1) b)
      = (re.hits b).map (Hit.shift (a.size + 1)) := by
    have hgo := hits.go_within hsecond hre 0 (Cursor.start b).onward
    have honward := Cursor.onward.go_within none 0 b ⟨some '\n', a.size + 1, []⟩ rfl
    rw [Nat.zero_add] at hgo
    simp only [Option.none_or, Nat.zero_add] at honward
    rw [honward]
    exact hgo
  -- the places in the text are those in its first part and those behind the line feed
  have honward : (Cursor.start (a ++ '\n' :: b)).onward
      = (Cursor.start a).onward.map (Cursor.within ⟨none, 0, '\n' :: b⟩)
        ++ Cursor.onward.go (some '\n') (a.size + 1) b := by
    have hgo := Cursor.onward.go_append_line none 0 a b
    rw [Nat.zero_add] at hgo
    exact hgo
  rw [← hbehind, ← hbefore, hits, honward]
  apply hits.go_append
  . intro cursor hcursor
    exact Nat.zero_le _
  . intro cursor hcursor
    exact Cursor.onward.le_offset_of_mem_go hcursor
  . intro hit hhit cursor hcursor
    rw [hbefore] at hhit
    have hstop := (isSound_of_mem_hits hgroups hhit).isBoundary_stop.le_size
    have hle := Cursor.onward.le_offset_of_mem_go hcursor
    omega

end TextScopes.Regex
