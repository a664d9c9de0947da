/-!
This module contains maps whose entries stand in ascending order of their keys. A key has one entry;
writing it again replaces the value.
-/

namespace TextScopes

/-- A map as the list of its entries in ascending order of keys. -/
@[ext]
structure SortedMap (κ α : Type) [LT κ] where
  entries : List (κ × α)
  ascending : entries.Pairwise fun entry other => entry.1 < other.1
  deriving DecidableEq, Repr

namespace SortedMap

variable {κ α : Type} [LT κ]

def empty : SortedMap κ α := ⟨[], List.Pairwise.nil⟩

instance : EmptyCollection (SortedMap κ α) := ⟨empty⟩

instance : Inhabited (SortedMap κ α) := ⟨∅⟩

def get? [DecidableEq κ] (map : SortedMap κ α) (key : κ) : Option α := map.entries.lookup key

def contains [DecidableEq κ] (map : SortedMap κ α) (key : κ) : Bool := (map.get? key).isSome

def keys (map : SortedMap κ α) : List κ := map.entries.map (·.1)

variable [DecidableLT κ] [DecidableEq κ]

def insertEntry (key : κ) (value : α) : List (κ × α) → List (κ × α)
  | [] => [(key, value)]
  | (k, v) :: rest =>
    if key < k then (key, value) :: (k, v) :: rest
    else if key = k then (key, value) :: rest
    else (k, v) :: insertEntry key value rest

theorem mem_insertEntry {key : κ} {value : α} {entries : List (κ × α)} {entry : κ × α}
    (h : entry ∈ insertEntry key value entries) : entry = (key, value) ∨ entry ∈ entries := by
  fun_induction insertEntry key value entries with
  | case1 => simpa using h
  | case2 => simpa using h
  | case3 =>
    rcases List.mem_cons.mp h with h | h
    . exact Or.inl h
    . exact Or.inr (List.mem_cons_of_mem _ h)
  | case4 k v rest hlt hne ih =>
    rcases List.mem_cons.mp h with h | h
    . exact Or.inr (h ▸ List.mem_cons_self)
    . rcases ih h with h | h
      . exact Or.inl h
      . exact Or.inr (List.mem_cons_of_mem _ h)

variable [LE κ] [Std.IsLinearOrder κ] [Std.LawfulOrderLT κ]

theorem pairwise_insertEntry {key : κ} {value : α} {entries : List (κ × α)}
    (h : entries.Pairwise fun entry other => entry.1 < other.1)
    : (insertEntry key value entries).Pairwise fun entry other => entry.1 < other.1 := by
  fun_induction insertEntry key value entries with
  | case1 => exact List.pairwise_singleton _ _
  | case2 k v rest hlt =>
    rw [List.pairwise_cons]
    refine ⟨?_, h⟩
    intro entry hentry
    cases hentry with
    | head => exact hlt
    | tail _ hentry => exact Std.lt_trans hlt (List.rel_of_pairwise_cons h hentry)
  | case3 v rest hlt =>
    rw [List.pairwise_cons] at h ⊢
    exact h
  | case4 k v rest hlt hne ih =>
    rw [List.pairwise_cons] at h ⊢
    refine ⟨?_, ih h.2⟩
    intro entry hentry
    rcases mem_insertEntry hentry with rfl | hentry
    . exact Std.lt_of_le_of_ne (Std.not_lt.mp hlt) (Ne.symm hne)
    . exact h.1 entry hentry

def insert (map : SortedMap κ α) (key : κ) (value : α) : SortedMap κ α :=
  ⟨insertEntry key value map.entries, pairwise_insertEntry map.ascending⟩

/-- The map with the given entries, the later ones written over the earlier ones. -/
def ofList (entries : List (κ × α)) : SortedMap κ α :=
  entries.foldl (fun map (key, value) => map.insert key value) ∅

@[simp]
theorem entries_ofList_singleton {key : κ} {value : α}
    : (ofList [(key, value)]).entries = [(key, value)] := rfl

end SortedMap

end TextScopes
