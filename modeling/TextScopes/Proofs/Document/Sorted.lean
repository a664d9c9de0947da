import Mathlib.Data.String.Basic
import Mathlib.Order.Lattice
import TextScopes.Document.Basic

/-!
This module contains what sorting the members of objects does to documents. As long as no object has
a name twice, every member stays where its name finds it.
-/

namespace TextScopes

def Members.get? : Members → String → Option Document
  | .cons (.ok other) value rest, name => if other = name then some value else rest.get? name
  | .cons (.error _) _ rest, name => rest.get? name
  | .nil, _ | .stop _ _, _ => none

mutual

/-- Whether a document is a value as it stands in JSON texts: it has no fault, and no object in it
has a name twice. -/
def Document.IsProper : Document → Prop
  | .array items => items.IsProper
  | .object members => members.IsProper
  | .time _ | .broken _ _ => False
  | .null | .bool _ | .integer _ | .decimal _ | .string _ => True

def Items.IsProper : Items → Prop
  | .nil => True
  | .cons item rest => item.IsProper ∧ rest.IsProper
  | .stop _ _ => False

def Members.IsProper : Members → Prop
  | .nil => True
  | .cons (.ok name) value rest => rest.get? name = none ∧ value.IsProper ∧ rest.IsProper
  | .cons (.error _) _ _ | .stop _ _ => False

end

variable {name : String} {value : Document}

theorem Document.depth_pos : 0 < value.depth := by
  cases value with
  | array items => exact Nat.succ_pos _
  | object members => exact Nat.succ_pos _
  | _ => exact Nat.one_pos

theorem Items.isProper_ofList {items : List Document}
    : (Items.ofList items).IsProper ↔ ∀ item ∈ items, item.IsProper := by
  induction items with
  | nil => exact ⟨fun _ => nofun, fun _ => trivial⟩
  | cons item rest ih => rw [Items.ofList, Items.IsProper, ih, List.forall_mem_cons]

namespace Members

@[simp]
theorem get?_nil : Members.nil.get? name = none := rfl

theorem get?_cons {other : String} {rest : Members}
    : (Members.cons (.ok other) value rest).get? name
      = if other = name then some value else rest.get? name := rfl

theorem isSome_get?_ofList_iff {entries : List (String × Document)}
    : ((Members.ofList entries).get? name).isSome ↔ name ∈ entries.map (·.1) := by
  induction entries with
  | nil => simp [Members.ofList]
  | cons entry rest ih =>
    rw [Members.ofList, get?_cons, List.map_cons, List.mem_cons, ← ih]
    by_cases h : entry.1 = name
    . simp [h]
    . simp [h, Ne.symm h]

theorem isProper_ofList {entries : List (String × Document)}
    : (Members.ofList entries).IsProper
        ↔ (entries.map (·.1)).Nodup ∧ ∀ entry ∈ entries, entry.2.IsProper := by
  induction entries with
  | nil => simp [Members.ofList, Members.IsProper]
  | cons entry rest ih =>
    rw [Members.ofList, Members.IsProper, ih, ← Option.not_isSome_iff_eq_none,
      isSome_get?_ofList_iff, List.map_cons, List.nodup_cons, List.forall_mem_cons]
    exact and_assoc.symm.trans and_and_and_comm

theorem depth_le_of_get? {members : Members} (h : members.get? name = some value)
    : value.depth ≤ members.depth := by
  match members with
  | .cons (.ok other) first rest =>
    rw [get?_cons] at h
    split at h
    . cases h
      exact Nat.le_max_left _ _
    . exact Nat.le_trans (depth_le_of_get? h) (Nat.le_max_right _ _)
  | .cons (.error _) _ rest =>
    have h : rest.get? name = some value := h
    exact Nat.le_trans (depth_le_of_get? h) (Nat.le_max_right _ _)

theorem IsProper.of_get? {members : Members} (hproper : members.IsProper)
    (h : members.get? name = some value) : value.IsProper := by
  match members with
  | .cons (.ok other) first rest =>
    rw [get?_cons] at h
    split at h
    . cases h
      exact hproper.2.1
    . exact hproper.2.2.of_get? h

theorem get?_insert {members : Members} {key : String} (hproper : members.IsProper)
    (hname : members.get? name = none)
    : (members.insert name value).get? key = if name = key then some value else members.get? key
    := by
  match members with
  | .nil => rfl
  | .cons (.ok other) found rest =>
    have hne : other ≠ name := by
      rintro rfl
      simp [get?_cons] at hname
    rw [get?_cons, if_neg hne] at hname
    unfold Members.insert
    split
    . rfl
    . rw [if_neg (Ne.symm hne), get?_cons, get?_insert hproper.2.2 hname, get?_cons]
      by_cases h : other = key
      . rw [if_pos h, if_pos h, if_neg (h ▸ Ne.symm hne)]
      . rw [if_neg h, if_neg h]

theorem IsProper.insert {members : Members} (hproper : members.IsProper) (hvalue : value.IsProper)
    (hname : members.get? name = none) : (members.insert name value).IsProper := by
  match members with
  | .nil => exact ⟨rfl, hvalue, trivial⟩
  | .cons (.ok other) found rest =>
    have hne : other ≠ name := by
      rintro rfl
      simp [get?_cons] at hname
    have hrest : rest.get? name = none := by
      rwa [get?_cons, if_neg hne] at hname
    unfold Members.insert
    split
    . exact ⟨hname, hvalue, hproper⟩
    . rw [if_neg (Ne.symm hne)]
      refine ⟨?_, hproper.2.1, hproper.2.2.insert hvalue hrest⟩
      rw [get?_insert hproper.2.2 hrest, if_neg (Ne.symm hne)]
      exact hproper.1

end Members

mutual

theorem Document.IsProper.sorted {document : Document} (h : document.IsProper)
    : document.sorted.IsProper := by
  match document with
  | .array items => exact Items.IsProper.sorted h
  | .object members => exact (Members.sorted_of_isProper h).1
  | .null | .bool _ | .integer _ | .decimal _ | .string _ => trivial

theorem Items.IsProper.sorted {items : Items} (h : items.IsProper) : items.sorted.IsProper := by
  match items with
  | .nil => trivial
  | .cons item rest => exact ⟨h.1.sorted, h.2.sorted⟩

theorem Members.sorted_of_isProper {members : Members} (h : members.IsProper)
    : members.sorted.IsProper
      ∧ ∀ name, members.sorted.get? name = (members.get? name).map Document.sorted := by
  match members with
  | .nil => exact ⟨trivial, fun _ => rfl⟩
  | .cons (.ok other) value rest =>
    rcases Members.sorted_of_isProper h.2.2 with ⟨hproper, hget⟩
    have hother : rest.sorted.get? other = none := by
      rw [hget, h.1]
      rfl
    refine ⟨hproper.insert h.2.1.sorted hother, ?_⟩
    intro name
    rw [Members.sorted, Members.get?_insert hproper hother, hget, Members.get?_cons]
    split
    . rfl
    . rfl

end

end TextScopes
