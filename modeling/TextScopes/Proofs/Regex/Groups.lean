import TextScopes.Proofs.Regex.Progress
import TextScopes.Proofs.Text.Boundary

/-!
This module contains where the groups of a match lie. If the groups of an expression are numbered
from the outside to the inside, the groups recorded on the way through it lie between the two ends
of the way, and of two that overlap the one with the greater number lies inside the other.
-/

namespace TextScopes.Regex

namespace Expr

mutual

/-- Whether the groups of an expression have numbers from `least` on, those inside a group greater
ones than the group itself. -/
def GroupsFrom (least : Nat) : Expr → Prop
  | empty | literal _ | set _ | look _ => True
  | repetition _ _ _ body => GroupsFrom least body
  | group index body => least ≤ index ∧ GroupsFrom (index + 1) body
  | concat parts => AllGroupsFrom least parts
  | alternation branches => AllGroupsFrom least branches
termination_by structural e => e

def AllGroupsFrom (least : Nat) : List Expr → Prop
  | [] => True
  | e :: es => GroupsFrom least e ∧ AllGroupsFrom least es
termination_by structural es => es

end

end Expr

def Cursor.IsIn (text : Text) (cursor : Cursor) : Prop :=
  ∃ before, before ++ cursor.rest = text ∧ Text.size before = cursor.offset

theorem Cursor.IsIn.isBoundary {text : Text} {cursor : Cursor} (h : cursor.IsIn text)
    : text.IsBoundary cursor.offset := by
  rcases h with ⟨before, htext, hsize⟩
  exact ⟨before, cursor.rest, htext, hsize⟩

theorem Cursor.start_isIn (text : Text) : (Cursor.start text).IsIn text := by
  exact ⟨[], rfl, rfl⟩

theorem Cursor.onward.isIn_of_mem_go {text rest : Text} {prev : Option Char} {offset : Nat}
    (hrest : Cursor.IsIn text ⟨prev, rest, offset⟩) {cursor : Cursor}
    (h : cursor ∈ go prev offset rest) : cursor.IsIn text := by
  induction rest generalizing prev offset with
  | nil =>
    rw [go, List.mem_singleton] at h
    rw [h]
    exact hrest
  | cons c rest ih =>
    rw [go] at h
    cases h with
    | head => exact hrest
    | tail _ h =>
      apply ih _ h
      rcases hrest with ⟨before, rfl, hsize⟩
      exact ⟨before ++ [c], by simp, by simpa using hsize⟩

theorem Cursor.isIn_of_mem_onward {text : Text} {cursor : Cursor}
    (h : cursor ∈ (Cursor.start text).onward) : cursor.IsIn text := by
  exact Cursor.onward.isIn_of_mem_go (Cursor.start_isIn text) h

/-- A group as a thread records it: its number and its offsets. -/
abbrev Record := Nat × Nat × Nat

/-- Whether a record has a number from `least` on and lies between two offsets of a text. -/
structure RecordIn (text : Text) (least start stop : Nat) (record : Record) : Prop where
  least_le : least ≤ record.1
  start_le : start ≤ record.2.1
  le : record.2.1 ≤ record.2.2
  le_stop : record.2.2 ≤ stop
  isBoundary_start : text.IsBoundary record.2.1
  isBoundary_stop : text.IsBoundary record.2.2

theorem RecordIn.mono {text : Text} {least start stop least' start' stop' : Nat} {record : Record}
    (h : RecordIn text least start stop record) (hleast : least' ≤ least) (hstart : start' ≤ start)
    (hstop : stop ≤ stop') : RecordIn text least' start' stop' record where
  least_le := Nat.le_trans hleast h.least_le
  start_le := Nat.le_trans hstart h.start_le
  le := h.le
  le_stop := Nat.le_trans h.le_stop hstop
  isBoundary_start := h.isBoundary_start
  isBoundary_stop := h.isBoundary_stop

/-- Whether two records do not overlap, or the one with the greater number lies inside the other. -/
def RecordsNest (a b : Record) : Prop :=
  a.2.2 ≤ b.2.1 ∨ b.2.2 ≤ a.2.1 ∨
    (a.1 < b.1 ∧ a.2.1 ≤ b.2.1 ∧ b.2.2 ≤ a.2.2) ∨ (b.1 < a.1 ∧ b.2.1 ≤ a.2.1 ∧ a.2.2 ≤ b.2.2)

theorem RecordsNest.symm {a b : Record} (h : RecordsNest a b) : RecordsNest b a := by
  unfold RecordsNest at *
  omega

instance : Std.Symm RecordsNest := ⟨fun _ _ => RecordsNest.symm⟩

/-- What a part of a match does to a thread at a place in a text: it ends at a place further on, and
the groups it records lie between the two and nest. -/
structure Extends (text : Text) (least : Nat) (s t : Thread) : Prop where
  isIn : t.cursor.IsIn text
  le : s.offset ≤ t.offset
  records : ∃ records, t.groups = records ++ s.groups
    ∧ (∀ r ∈ records, RecordIn text least s.offset t.offset r) ∧ records.Pairwise RecordsNest

namespace Extends

variable {text : Text} {least : Nat} {r s t : Thread}

theorem of_groups_eq (ht : t.cursor.IsIn text) (hle : s.offset ≤ t.offset)
    (hgroups : t.groups = s.groups) : Extends text least s t := by
  exact ⟨ht, hle, [], by simpa using hgroups, by simp, by simp⟩

theorem trans (hrs : Extends text least r s) (hst : Extends text least s t)
    : Extends text least r t := by
  rcases hrs.records with ⟨early, hearly, hearlyIn, hearlyNest⟩
  rcases hst.records with ⟨late, hlate, hlateIn, hlateNest⟩
  refine ⟨hst.isIn, Nat.le_trans hrs.le hst.le, late ++ early, by simp [hlate, hearly], ?_, ?_⟩
  . intro record hrecord
    rcases List.mem_append.mp hrecord with hrecord | hrecord
    . exact (hlateIn record hrecord).mono (Nat.le_refl _) hrs.le (Nat.le_refl _)
    . exact (hearlyIn record hrecord).mono (Nat.le_refl _) (Nat.le_refl _) hst.le
  . rw [List.pairwise_append]
    refine ⟨hlateNest, hearlyNest, ?_⟩
    intro a ha b hb
    -- what is recorded later lies behind what was recorded earlier
    have := (hlateIn a ha).start_le
    have := (hearlyIn b hb).le_stop
    unfold RecordsNest
    omega

theorem record {index : Nat} (hs : s.cursor.IsIn text) (hindex : least ≤ index)
    (h : Extends text (index + 1) s t) : Extends text least s (t.record index s.offset) := by
  rcases h.records with ⟨inside, hinside, hinsideIn, hinsideNest⟩
  refine ⟨h.isIn, h.le, (index, s.offset, t.offset) :: inside, ?_, ?_, ?_⟩
  . rw [Thread.record, hinside]
    rfl
  . intro record hrecord
    cases hrecord with
    | head =>
      exact ⟨hindex, Nat.le_refl _, h.le, Nat.le_refl _, hs.isBoundary, h.isIn.isBoundary⟩
    | tail _ hrecord =>
      exact (hinsideIn record hrecord).mono (by omega) (Nat.le_refl _) (Nat.le_refl _)
  . rw [List.pairwise_cons]
    refine ⟨?_, hinsideNest⟩
    intro record hrecord
    -- the group is recorded behind those inside it but has a smaller number
    have hin := hinsideIn record hrecord
    have := hin.least_le
    have := hin.start_le
    have := hin.le_stop
    exact Or.inr (Or.inr (Or.inl ⟨by omega, by omega, by omega⟩))

end Extends

/-- `Extends` for threads that are at a place in the text. -/
def Advances (text : Text) (least : Nat) (s t : Thread) : Prop :=
  s.cursor.IsIn text → Extends text least s t

theorem progress_advances (text : Text) (least : Nat)
    : Progress (fun _ => True) (Advances text least) where
  refl t ht := Extends.of_groups_eq ht (Nat.le_refl _) rfl
  trans hrs hst hr := (hrs hr).trans (hst (hrs hr).isIn)
  pass address t ht := Extends.of_groups_eq ht (Nat.le_refl _) rfl
  read {p s t} _ h hs := by
    unfold Thread.read? at h
    split at h
    . contradiction
    . next c rest hrest =>
      split at h
      . cases h
        rcases hs with ⟨before, htext, hsize⟩
        rw [hrest] at htext
        apply Extends.of_groups_eq
        . exact ⟨before ++ [c], by simpa using htext, by simpa using hsize⟩
        . exact Nat.le_add_right _ _
        . rfl
      . contradiction

mutual

theorem ends_advances (text : Text) (least : Nat) (e : Expr) (he : e.GroupsFrom least)
    (address : Address) (s t : Thread) (h : t ∈ ends e address s) : Advances text least s t := by
  have hR := progress_advances text least
  match e with
  | .empty =>
    rw [ends, List.mem_singleton] at h
    rw [h]
    apply hR.refl
  | .literal chars => exact hR.readAll? (fun _ _ => trivial) (Option.mem_toList.mp h)
  | .set chars => exact hR.read trivial (Option.mem_toList.mp h)
  | .look look =>
    rw [ends] at h
    split at h
    . rw [List.mem_singleton] at h
      rw [h]
      apply hR.refl
    . contradiction
  | .group index body =>
    rw [Expr.GroupsFrom] at he
    rw [ends] at h
    rcases List.mem_map.mp h with ⟨t', ht', rfl⟩
    intro hs
    exact Extends.record hs he.1 (ends_advances text (index + 1) body he.2 address s t' ht' hs)
  | .concat parts =>
    rcases endsAll_advances text least parts he address 0 [s] t h with ⟨s', hs', hst⟩
    rw [List.mem_singleton] at hs'
    rw [← hs']
    exact hst
  | .alternation branches =>
    rw [ends] at h
    split at h
    . contradiction
    . apply hR.trans (hR.pass address s)
      exact endsAny_advances text least branches he address 0 _ t (Thread.mem_of_mem_distinct h)
  | .repetition low high greedy body =>
    apply hR.repeated _ (fun _ _ => trivial) h
    intro copy s' t' h'
    exact ends_advances text least body he (1 :: copy :: address) s' t' h'

theorem endsAll_advances (text : Text) (least : Nat) (es : List Expr)
    (he : Expr.AllGroupsFrom least es) (address : Address) (index : Nat) (threads : List Thread)
    (t : Thread) (h : t ∈ endsAll es address index threads)
    : ∃ s ∈ threads, Advances text least s t := by
  match es with
  | [] => exact ⟨t, h, (progress_advances text least).refl t⟩
  | part :: parts =>
    rw [Expr.AllGroupsFrom] at he
    rcases endsAll_advances text least parts he.2 address (index + 1) _ t h with ⟨mid, hmid, hrest⟩
    rcases exists_of_mem_each (ends_advances text least part he.1 (index :: address)) hmid
      with ⟨s, hs, hfirst⟩
    exact ⟨s, hs, (progress_advances text least).trans hfirst hrest⟩

theorem endsAny_advances (text : Text) (least : Nat) (es : List Expr)
    (he : Expr.AllGroupsFrom least es) (address : Address) (index : Nat) (s t : Thread)
    (h : t ∈ endsAny es address index s) : Advances text least s t := by
  match es with
  | [] => contradiction
  | branch :: branches =>
    rw [Expr.AllGroupsFrom] at he
    rcases List.mem_append.mp h with h | h
    . exact ends_advances text least branch he.1 (index :: address) s t h
    . exact endsAny_advances text least branches he.2 address (index + 1) s t h

end

theorem progress_groups : Progress (fun _ => True) (fun s t => t.groups = s.groups) where
  refl _ := rfl
  trans hrs hst := hst.trans hrs
  pass _ _ := rfl
  read {p s t} _ h := by
    unfold Thread.read? at h
    split at h
    . contradiction
    . split at h
      . cases h
        rfl
      . contradiction

end TextScopes.Regex
