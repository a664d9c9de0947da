import Mathlib.Data.List.Induction
import Mathlib.Data.List.Nodup
import TextScopes.SortedMap

/-!
This module contains what writing an entry into a sorted map does to looking up, and what follows
from the order of its keys: a map is known by what it holds.
-/

namespace TextScopes.SortedMap

variable {κ α : Type}

theorem lookup_cons [DecidableEq κ] {entries : List (κ × α)} {key k : κ} {value : α}
    : ((key, value) :: entries).lookup k = if k = key then some value else entries.lookup k := by
  rw [List.lookup_cons]
  by_cases h : k = key
  . simp [h]
  . simp [h, beq_eq_false_iff_ne.mpr h]

theorem lookup_of_mem [DecidableEq κ] {entries : List (κ × α)} {key : κ} {value : α}
    (hkeys : (entries.map (·.1)).Nodup) (h : (key, value) ∈ entries)
    : entries.lookup key = some value := by
  rcases List.append_of_mem h with ⟨before, behind, rfl⟩
  rw [List.map_append, List.nodup_append, List.map_cons] at hkeys
  refine List.lookup_eq_some_iff.mpr ⟨before, behind, rfl, ?_⟩
  intro entry hentry
  rw [bne_iff_ne]
  exact Ne.symm (hkeys.2.2 _ (List.mem_map_of_mem hentry) _ List.mem_cons_self)

theorem find?_eq_some_iff_of_pairwise {β : Type} {R : β → β → Prop} (hR : ∀ a b, R a b → ¬ R b a)
    {l : List β} (h : l.Pairwise R) {p : β → Bool} {a : β}
    : l.find? p = some a ↔ a ∈ l ∧ p a ∧ ∀ b ∈ l, p b → b = a ∨ R a b := by
  have hfirst {found : β} (hfind : l.find? p = some found)
      : ∀ b ∈ l, p b → b = found ∨ R found b := by
    intro b hb hp
    rcases List.find?_eq_some_iff_append.mp hfind with ⟨-, before, behind, rfl, hbefore⟩
    rw [List.pairwise_append, List.pairwise_cons] at h
    rw [List.mem_append, List.mem_cons] at hb
    rcases hb with hb | hb | hb
    . have hnot := hbefore _ hb
      rw [hp] at hnot
      contradiction
    . exact Or.inl hb
    . exact Or.inr (h.2.1.1 _ hb)
  constructor
  . intro hfind
    exact ⟨List.mem_of_find?_eq_some hfind, List.find?_some hfind, hfirst hfind⟩
  . rintro ⟨hmem, hp, hleast⟩
    rcases Option.isSome_iff_exists.mp (List.find?_isSome.mpr ⟨a, hmem, hp⟩) with ⟨found, hfind⟩
    rcases hleast found (List.mem_of_find?_eq_some hfind) (List.find?_some hfind) with heq | hlt
    . rw [hfind, heq]
    . rcases hfirst hfind a hmem hp with heq | hgt
      . rw [hfind, heq]
      . exact absurd hlt (hR _ _ hgt)

variable [LT κ]

section Lookup

variable [DecidableEq κ] {map : SortedMap κ α} {key : κ} {value : α}

theorem mem_keys_iff : key ∈ map.keys ↔ ∃ value, map.get? key = some value := by
  rw [← Option.ne_none_iff_exists', ← not_iff_not, not_not]
  unfold keys get?
  rw [List.lookup_eq_none_iff, List.mem_map]
  simp only [bne_iff_ne, not_exists, not_and]
  exact ⟨fun h entry hentry heq => h entry hentry heq.symm,
    fun h entry hentry heq => h entry hentry heq.symm⟩

theorem mem_of_get? (h : map.get? key = some value) : (key, value) ∈ map.entries := by
  rcases List.lookup_eq_some_iff.mp h with ⟨before, behind, heq, -⟩
  rw [heq]
  exact List.mem_append_right _ List.mem_cons_self

end Lookup

section InsertEntry

variable [DecidableLT κ] [DecidableEq κ]

theorem insertEntry_eq_append {entries : List (κ × α)} {key : κ} {value : α}
    (h : ∀ entry ∈ entries, ¬ key < entry.1 ∧ key ≠ entry.1)
    : insertEntry key value entries = entries ++ [(key, value)] := by
  fun_induction insertEntry key value entries with
  | case1 => rfl
  | case2 k v rest hlt => exact absurd hlt (h (k, v) List.mem_cons_self).1
  | case3 v rest hlt => exact absurd rfl (h (key, v) List.mem_cons_self).2
  | case4 k v rest hlt hne ih =>
    rw [ih fun entry hentry => h entry (List.mem_cons_of_mem _ hentry), List.cons_append]

end InsertEntry

variable [LE κ] [Std.LawfulOrderLT κ]

theorem nodup_keys (map : SortedMap κ α) : map.keys.Nodup :=
  List.pairwise_map.mpr (map.ascending.imp fun hlt => Std.ne_of_lt hlt)

theorem find?_eq_some_iff {map : SortedMap κ α} {p : κ × α → Bool} {entry : κ × α}
    : map.entries.find? p = some entry
        ↔ entry ∈ map.entries ∧ p entry
          ∧ ∀ other ∈ map.entries, p other → other = entry ∨ entry.1 < other.1 :=
  find?_eq_some_iff_of_pairwise (fun _ _ => Std.not_gt_of_lt) map.ascending

theorem find?_reverse_eq_some_iff {map : SortedMap κ α} {p : κ × α → Bool} {entry : κ × α}
    : map.entries.reverse.find? p = some entry
        ↔ entry ∈ map.entries ∧ p entry
          ∧ ∀ other ∈ map.entries, p other → other = entry ∨ other.1 < entry.1 := by
  have hreverse : map.entries.reverse.Pairwise fun a b => b.1 < a.1 :=
    List.pairwise_reverse.mpr map.ascending
  simpa using find?_eq_some_iff_of_pairwise (fun _ _ => Std.not_gt_of_lt) hreverse (p := p)
    (a := entry)

variable [DecidableEq κ]

theorem mem_iff {map : SortedMap κ α} {key : κ} {value : α}
    : (key, value) ∈ map.entries ↔ map.get? key = some value :=
  ⟨lookup_of_mem map.nodup_keys, mem_of_get?⟩

theorem ext_get? {map other : SortedMap κ α} (h : ∀ key, map.get? key = other.get? key)
    : map = other := by
  have hnodup (map : SortedMap κ α) : map.entries.Nodup := List.Nodup.of_map _ map.nodup_keys
  have hperm : map.entries.Perm other.entries := by
    rw [List.perm_ext_iff_of_nodup (hnodup map) (hnodup other)]
    rintro ⟨key, value⟩
    rw [mem_iff, mem_iff, h]
  have hanti (a b : κ × α) (_ : a ∈ map.entries) (_ : b ∈ other.entries) (hlt : a.1 < b.1)
      (hgt : b.1 < a.1) : a = b :=
    absurd hgt (Std.not_gt_of_lt hlt)
  exact SortedMap.ext (hperm.eq_of_pairwise hanti map.ascending other.ascending)

variable [DecidableLT κ] [Std.IsLinearOrder κ]

theorem get?_insert {map : SortedMap κ α} {key k : κ} {value : α}
    : (map.insert key value).get? k = if k = key then some value else map.get? k := by
  unfold insert get?
  dsimp only
  fun_induction insertEntry key value map.entries with
  | case1 => rw [lookup_cons]
  | case2 => rw [lookup_cons]
  | case3 =>
    rw [lookup_cons, lookup_cons]
    split
    . rfl
    . rfl
  | case4 k' v rest hlt hne ih =>
    rw [lookup_cons, lookup_cons, ih]
    by_cases h : k = k'
    . rw [if_pos h, if_pos h, if_neg (h ▸ Ne.symm hne)]
    . rw [if_neg h, if_neg h]

theorem get?_foldl_insert {ι : Type} (key : ι → κ) (value : ι → α) (items : List ι)
    (map : SortedMap κ α) (k : κ)
    : (items.foldl (fun map item => map.insert (key item) (value item)) map).get? k
      = ((items.reverse.find? fun item => key item = k).map value).or (map.get? k) := by
  induction items using List.reverseRecOn with
  | nil => rfl
  | append_singleton items item ih =>
    rw [List.foldl_append, List.foldl_cons, List.foldl_nil, get?_insert, ih, List.reverse_append,
      List.reverse_singleton, List.singleton_append, List.find?_cons]
    by_cases h : key item = k
    . simp [h]
    . simp [h, Ne.symm h]

end TextScopes.SortedMap
