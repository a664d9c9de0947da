import Mathlib.Data.List.Pairwise
import TextScopes.Regex.Basic
import TextScopes.Proofs.Regex.Groups

/-!
This module contains what is known of the matches of a pattern whose groups are numbered from the
outside to the inside: they lie on boundaries of the text, their groups lie inside them, and of two
groups that overlap the one with the greater number lies inside the other.
-/

namespace TextScopes.Regex

def Hit.HasGroup (hit : Hit) (record : Record) : Prop :=
  (hit.groups[record.1]?).join = some record.2

structure Hit.IsSound (text : Text) (hit : Hit) : Prop where
  le : hit.start ≤ hit.stop
  isBoundary_start : text.IsBoundary hit.start
  isBoundary_stop : text.IsBoundary hit.stop
  recordIn : ∀ {r}, hit.HasGroup r → RecordIn text 0 hit.start hit.stop r
  nest : ∀ {a b}, hit.HasGroup a → hit.HasGroup b → a.1 ≠ b.1 → RecordsNest a b

theorem Thread.hasGroup_hit {start groupCount : Nat} {t : Thread} {record : Record}
    (h : (t.hit start groupCount).HasGroup record)
    : record = (0, start, t.offset) ∨ (record.1 ≠ 0 ∧ record ∈ t.groups) := by
  rcases record with ⟨index, offsets⟩
  unfold Hit.HasGroup Thread.hit at h
  cases index with
  | zero =>
    left
    simpa using h.symm
  | succ index =>
    right
    dsimp only at h
    rw [List.getElem?_cons_succ, List.getElem?_map, Option.join_eq_some_iff] at h
    rcases Option.map_eq_some_iff.mp h with ⟨i, hi, hlookup⟩
    have : i = index := by
      rw [List.getElem?_range (by grind)] at hi
      grind
    subst this
    refine ⟨by simp, ?_⟩
    rcases List.lookup_eq_some_iff.mp hlookup with ⟨before, after, hgroups, -⟩
    rw [hgroups]
    simp

theorem isSound_hit {text : Text} {cursor : Cursor} {t : Thread} {groupCount : Nat}
    (hcursor : cursor.IsIn text) (h : Extends text 1 ⟨cursor, [], []⟩ t)
    : (t.hit cursor.offset groupCount).IsSound text := by
  rcases h.records with ⟨records, hrecords, hin, hnest⟩
  rw [List.append_nil] at hrecords
  subst hrecords
  have hle : cursor.offset ≤ t.offset := h.le
  -- the whole match counts as group 0, which no thread records
  have hwhole {r : Record} (hr : r ∈ t.groups) : RecordsNest (0, cursor.offset, t.offset) r := by
    have := (hin r hr).least_le
    have := (hin r hr).start_le
    have := (hin r hr).le_stop
    exact Or.inr (Or.inr (Or.inl ⟨by omega, by assumption, by assumption⟩))
  constructor
  . exact hle
  . exact hcursor.isBoundary
  . exact h.isIn.isBoundary
  . intro r hr
    rcases Thread.hasGroup_hit hr with rfl | ⟨-, hr⟩
    . exact ⟨Nat.zero_le _, Nat.le_refl _, hle, Nat.le_refl _, hcursor.isBoundary,
        h.isIn.isBoundary⟩
    . exact (hin r hr).mono (Nat.zero_le _) (Nat.le_refl _) (Nat.le_refl _)
  . intro a b ha hb hne
    rcases Thread.hasGroup_hit ha with rfl | ⟨-, ha⟩
    . rcases Thread.hasGroup_hit hb with rfl | ⟨-, hb⟩
      . contradiction
      . exact hwhole hb
    . rcases Thread.hasGroup_hit hb with rfl | ⟨-, hb⟩
      . exact (hwhole ha).symm
      . exact hnest.forall ha hb (fun hab => hne (by rw [hab]))

theorem hits.exists_of_mem_go {re : Regex} {from_ : Nat} {cursors : List Cursor} {hit : Hit}
    (h : hit ∈ go re from_ cursors) : ∃ cursor ∈ cursors, re.matchAt? cursor = some hit := by
  fun_induction go re from_ cursors with
  | case1 => contradiction
  | case2 from_ cursor cursors hlt ih =>
    rcases ih h with ⟨c, hc, hmatch⟩
    exact ⟨c, List.mem_cons_of_mem cursor hc, hmatch⟩
  | case3 from_ cursor cursors hlt first hfirst ih =>
    cases h with
    | head => exact ⟨cursor, List.mem_cons_self, hfirst⟩
    | tail _ h =>
      rcases ih h with ⟨c, hc, hmatch⟩
      exact ⟨c, List.mem_cons_of_mem cursor hc, hmatch⟩
  | case4 from_ cursor cursors hlt hnone ih =>
    rcases ih h with ⟨c, hc, hmatch⟩
    exact ⟨c, List.mem_cons_of_mem cursor hc, hmatch⟩

theorem isSound_of_matchAt? {re : Regex} (hre : re.expr.GroupsFrom 1) {text : Text}
    {cursor : Cursor} {hit : Hit} (hcursor : cursor.IsIn text)
    (h : re.matchAt? cursor = some hit) : hit.IsSound text := by
  rcases Option.map_eq_some_iff.mp h with ⟨t, ht, rfl⟩
  apply isSound_hit hcursor
  exact ends_advances text 1 re.expr hre [] _ t (List.mem_of_mem_head? ht) hcursor

theorem isSound_of_mem_hits {re : Regex} (hre : re.expr.GroupsFrom 1) {text : Text} {hit : Hit}
    (h : hit ∈ re.hits text) : hit.IsSound text := by
  rcases hits.exists_of_mem_go h with ⟨cursor, hcursor, hmatch⟩
  exact isSound_of_matchAt? hre (Cursor.isIn_of_mem_onward hcursor) hmatch

end TextScopes.Regex
