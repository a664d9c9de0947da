import Mathlib.Data.Nat.Digits.Defs
import TextScopes.Proofs.Grammar.Sound
import TextScopes.Proofs.Grammar.WellFormed
import TextScopes.Proofs.SortedMap
import TextScopes.Proofs.Text.Blank
import TextScopes.Proofs.Text.Utf8

/-!
This module contains how the written groups of a pattern are read. A number may be written in
several ways, so that keys of a table can stand for the same group: of those that give it a scope
the last one counts, and those that give none count for nothing. The first key that is no number is
an error, whether it gives a scope or not.
-/

namespace TextScopes.CaptureTable

/-- Whether a key is written for a number: as its decimal digits, with a plus sign and blanks
allowed around them. -/
def Denotes (key : String) (index : Nat) : Prop :=
  ∃ before sign digits behind,
    key.toList = before ++ (sign ++ digits ++ behind)
      ∧ (∀ c ∈ before, isBlank c) ∧ (∀ c ∈ behind, isBlank c)
      ∧ (sign = [] ∨ sign = ['+'])
      ∧ digits ≠ [] ∧ (∀ c ∈ digits, c.isDigit)
      ∧ Nat.ofDigits 10 (digits.reverse.map fun c => c.toNat - '0'.toNat) = index
      ∧ index ≤ 2 ^ 64 - 1

variable {key : String} {index : Nat} {path : RulePath} {table : CaptureTable} {map : CaptureMap}
  {entries : List (String × CaptureSource)} {error : Error} {scope : String}

theorem foldl_digits (digits : List Char)
    : digits.foldl (fun n c => 10 * n + (c.toNat - 48)) 0
      = Nat.ofDigits 10 (digits.reverse.map fun c => c.toNat - '0'.toNat) := by
  induction digits using List.reverseRecOn with
  | nil => rfl
  | append_singleton digits c ih =>
    rw [List.foldl_append, List.foldl_cons, List.foldl_nil, ih, List.reverse_append,
      List.reverse_singleton, List.singleton_append, List.map_cons, Nat.ofDigits_cons, Nat.add_comm]
    rfl

theorem not_isBlank_of_isDigit {c : Char} (h : c.isDigit) : ¬ isBlank c := by
  have hrange : 48 ≤ c.toNat ∧ c.toNat ≤ 57 := Char.isDigit_iff_toNat.mp h
  unfold isBlank blanks CharSet.contains
  simp only [CharSet.covers]
  grind

theorem trimBlanks_of_isDigit {before sign digits behind : List Char}
    (hbefore : ∀ c ∈ before, isBlank c) (hbehind : ∀ c ∈ behind, isBlank c)
    (hsign : sign = [] ∨ sign = ['+']) (hne : digits ≠ []) (hdigits : ∀ c ∈ digits, c.isDigit)
    : trimBlanks (before ++ (sign ++ digits ++ behind)) = sign ++ digits := by
  apply trimBlanks_eq hbefore hbehind
  . intro c hc
    rcases hsign with rfl | rfl
    . exact not_isBlank_of_isDigit (hdigits c (List.mem_of_head? hc))
    . cases hc
      decide
  . intro c hc
    rw [List.getLast?_append_of_ne_nil _ hne] at hc
    exact not_isBlank_of_isDigit (hdigits c (List.mem_of_getLast? hc))

theorem value_eq_some_iff {digits : List Char}
    : (let value := digits.foldl (fun n c => 10 * n + (c.toNat - 48)) 0
        if digits.isEmpty || !digits.all Char.isDigit || Nat.pow 2 64 ≤ value then none
        else some value) = some index
      ↔ digits ≠ [] ∧ (∀ c ∈ digits, c.isDigit)
        ∧ Nat.ofDigits 10 (digits.reverse.map fun c => c.toNat - '0'.toNat) = index
        ∧ index ≤ 2 ^ 64 - 1 := by
  have hpow : Nat.pow 2 64 = 2 ^ 64 - 1 + 1 := by decide
  dsimp only
  rw [foldl_digits, hpow]
  generalize Nat.ofDigits 10 (digits.reverse.map fun c => c.toNat - '0'.toNat) = value
  simp only [Option.ite_none_left_eq_some, Bool.or_eq_true, not_or, Bool.not_eq_true',
    List.isEmpty_iff, Bool.not_eq_false, List.all_eq_true, decide_eq_true_eq, Option.some.injEq,
    Nat.not_le, Nat.lt_add_one_iff]
  constructor
  . rintro ⟨⟨⟨hne, hdigits⟩, hle⟩, rfl⟩
    exact ⟨hne, hdigits, rfl, hle⟩
  . rintro ⟨hne, hdigits, rfl, hle⟩
    exact ⟨⟨⟨hne, hdigits⟩, hle⟩, rfl⟩

theorem index?_eq_some_iff : index? key = some index ↔ Denotes key index := by
  constructor
  . intro h
    rcases exists_eq_append_trimBlanks key.toList with ⟨before, behind, hkey, hbefore, hbehind⟩
    unfold index? at h
    dsimp only at h
    split at h
    . next digits htrim =>
      rw [htrim] at hkey
      exact ⟨before, ['+'], digits, behind, hkey, hbefore, hbehind, Or.inr rfl,
        value_eq_some_iff.mp h⟩
    . exact ⟨before, [], _, behind, hkey, hbefore, hbehind, Or.inl rfl, value_eq_some_iff.mp h⟩
  . rintro ⟨before, sign, digits, behind, hkey, hbefore, hbehind, hsign, hne, hdigits, hvalue⟩
    have htrim := trimBlanks_of_isDigit hbefore hbehind hsign hne hdigits
    unfold index?
    rw [hkey, htrim]
    rcases hsign with rfl | rfl
    . split
      . next rest hplus =>
        rw [List.nil_append] at hplus
        have hdigit := hdigits '+' (by simp [hplus])
        contradiction
      . exact value_eq_some_iff.mpr ⟨hne, hdigits, hvalue⟩
    . exact value_eq_some_iff.mpr ⟨hne, hdigits, hvalue⟩

def named? (entry : String × CaptureSource) : Option (Nat × String) :=
  (index? entry.1).bind fun index => entry.2.name.map (index, ·)

theorem named?_eq_some_iff {entry : String × CaptureSource}
    : named? entry = some (index, scope)
      ↔ Denotes entry.1 index ∧ entry.2.name = some scope := by
  unfold named?
  rw [Option.bind_eq_some_iff]
  simp [index?_eq_some_iff]

theorem isNone_index?_iff : (index? key).isNone ↔ ¬ ∃ index, Denotes key index := by
  simp only [← index?_eq_some_iff, Option.isNone_iff_eq_none, Option.eq_none_iff_forall_ne_some,
    ne_eq, not_exists]

/-- The first key that is no number is reported. If there is none, all scopes are written. -/
theorem readEntries_eq
    : readEntries path map entries
      = match entries.find? fun entry => (index? entry.1).isNone with
        | some entry => .error (.invalidCaptureIndex path entry.1)
        | none => .ok ((entries.filterMap named?).foldl
            (fun map entry => map.insert entry.1 entry.2) map) := by
  induction entries generalizing map with
  | nil => rfl
  | cons entry rest ih =>
    rcases entry with ⟨key, capture⟩
    rw [readEntries, List.find?_cons, List.filterMap_cons]
    cases hindex : index? key with
    | none => simp
    | some index =>
      dsimp only
      rw [ih]
      cases hname : capture.name with
      | none => simp [named?, hindex, hname]
      | some name => simp [named?, hindex, hname]

/-- Whether a scope is the one that the last key for a group with a scope gives to it. -/
def IsLast (table : CaptureTable) (index : Nat) (scope : String) : Prop :=
  ∃ key, table.get? key = some ⟨some scope⟩ ∧ Denotes key index
    ∧ ∀ other name, table.get? other = some ⟨some name⟩ → Denotes other index →
      other = key ∨ utf8 other < utf8 key

theorem any_named?_iff {entry : String × CaptureSource}
    : (named? entry).any (·.1 = index)
      ↔ Denotes entry.1 index ∧ ∃ scope, entry.2.name = some scope := by
  simp only [Option.any_eq_true, Prod.exists, named?_eq_some_iff, decide_eq_true_eq]
  constructor
  . rintro ⟨_, scope, ⟨hdenotes, hname⟩, rfl⟩
    exact ⟨hdenotes, scope, hname⟩
  . rintro ⟨hdenotes, scope, hname⟩
    exact ⟨index, scope, ⟨hdenotes, hname⟩, rfl⟩

theorem get?_written_eq_some_iff
    : ((table.entries.filterMap named?).foldl
          (fun map entry => map.insert entry.1 entry.2) (∅ : CaptureMap)).get? index = some scope
      ↔ table.IsLast index scope := by
  have hempty : (∅ : CaptureMap).get? index = none := rfl
  rw [SortedMap.get?_foldl_insert (fun entry : Nat × String => entry.1) (·.2), hempty,
    Option.or_none, ← List.filterMap_reverse, List.find?_filterMap]
  simp only [Option.map_eq_some_iff, Option.bind_eq_some_iff, SortedMap.find?_reverse_eq_some_iff,
    any_named?_iff]
  constructor
  . rintro ⟨⟨i, name⟩, ⟨⟨key, ⟨written⟩⟩, ⟨hmem, ⟨hdenotes, -⟩, hlast⟩, hnamed⟩, rfl⟩
    rcases named?_eq_some_iff.mp hnamed with ⟨-, rfl⟩
    refine ⟨key, SortedMap.mem_iff.mp hmem, hdenotes, ?_⟩
    intro other scope hother hdenotes
    rcases hlast (other, ⟨some scope⟩) (SortedMap.mem_iff.mpr hother) ⟨hdenotes, scope, rfl⟩
      with heq | hlt
    . exact Or.inl (congrArg Prod.fst heq)
    . exact Or.inr (lt_iff_utf8_lt.mp hlt)
  . rintro ⟨key, hkey, hdenotes, hlast⟩
    refine ⟨(index, scope), ⟨(key, ⟨some scope⟩),
      ⟨SortedMap.mem_iff.mpr hkey, ⟨hdenotes, scope, rfl⟩, ?_⟩,
      named?_eq_some_iff.mpr ⟨hdenotes, rfl⟩⟩, rfl⟩
    rintro ⟨other, ⟨written⟩⟩ hmem ⟨hdenotes, name, rfl⟩
    have hother := SortedMap.mem_iff.mp hmem
    rcases hlast other name hother hdenotes with rfl | hlt
    . exact Or.inl (by rw [Option.some.inj (hother.symm.trans hkey)])
    . exact Or.inr (lt_iff_utf8_lt.mpr hlt)

/-- Whether a key is the first one of a table that is no number. -/
def IsFirstInvalid (table : CaptureTable) (key : String) : Prop :=
  key ∈ table.keys ∧ (¬ ∃ index, Denotes key index)
    ∧ ∀ other ∈ table.keys, (¬ ∃ index, Denotes other index) →
      other = key ∨ utf8 key < utf8 other

theorem find?_isNone_eq_some_iff
    : (∃ capture, (table.entries.find? fun entry => (index? entry.1).isNone) = some (key, capture))
      ↔ table.IsFirstInvalid key := by
  simp only [SortedMap.find?_eq_some_iff, isNone_index?_iff]
  constructor
  . rintro ⟨capture, hmem, hinvalid, hfirst⟩
    refine ⟨List.mem_map.mpr ⟨_, hmem, rfl⟩, hinvalid, ?_⟩
    intro other hother hinvalid
    rcases List.mem_map.mp hother with ⟨entry, hentry, rfl⟩
    rcases hfirst entry hentry hinvalid with heq | hlt
    . exact Or.inl (congrArg Prod.fst heq)
    . exact Or.inr (lt_iff_utf8_lt.mp hlt)
  . rintro ⟨hkey, hinvalid, hfirst⟩
    rcases List.mem_map.mp hkey with ⟨⟨_, capture⟩, hmem, rfl⟩
    refine ⟨capture, hmem, hinvalid, ?_⟩
    rintro ⟨other, written⟩ hother hinvalid
    rcases hfirst other (List.mem_map.mpr ⟨_, hother, rfl⟩) hinvalid with rfl | hlt
    . exact Or.inl (List.inj_on_of_nodup_map table.nodup_keys hother hmem rfl)
    . exact Or.inr (lt_iff_utf8_lt.mpr hlt)

theorem read_eq (path : RulePath) (table : CaptureTable)
    : read path (some table)
      = match table.entries.find? fun entry => (index? entry.1).isNone with
        | some entry => .error (.invalidCaptureIndex path entry.1)
        | none => .ok ((table.entries.filterMap named?).foldl
            (fun map entry => map.insert entry.1 entry.2) ∅) :=
  readEntries_eq

theorem read_eq_error_iff
    : read path (some table) = .error error
      ↔ ∃ key, table.IsFirstInvalid key ∧ error = .invalidCaptureIndex path key := by
  simp only [← find?_isNone_eq_some_iff]
  rw [read_eq]
  cases table.entries.find? fun entry => (index? entry.1).isNone with
  | none => simp
  | some entry =>
    rcases entry with ⟨key, capture⟩
    constructor
    . intro heq
      cases heq
      exact ⟨key, ⟨capture, rfl⟩, rfl⟩
    . rintro ⟨_, ⟨_, hfind⟩, rfl⟩
      cases hfind
      rfl

theorem exists_read_iff_forall_denotes (path : RulePath) (table : CaptureTable)
    : (∃ map, read path (some table) = .ok map)
      ↔ ∀ key ∈ table.keys, ∃ index, Denotes key index := by
  rw [exists_read_iff]
  simp only [IsNumbered, Option.some.injEq, forall_eq', Option.isSome_iff_exists,
    index?_eq_some_iff]

theorem get?_of_read (hread : read path (some table) = .ok map)
    : map.get? index = some scope ↔ table.IsLast index scope := by
  rw [read_eq] at hread
  split at hread
  . contradiction
  . cases hread
    exact get?_written_eq_some_iff

/-- A table fails to be read exactly if one of its keys is no number, whether it gives a scope or
not, and the first such key is reported. Otherwise each group has the scope that the last key for it
gives, and there are no others. -/
theorem read_counts_last (path : RulePath) (table : CaptureTable)
    : ((∃ error, read path (some table) = .error error)
        ↔ ∃ key ∈ table.keys, ¬ ∃ index, Denotes key index)
      ∧ (∀ error, read path (some table) = .error error
        ↔ ∃ key, table.IsFirstInvalid key ∧ error = .invalidCaptureIndex path key)
      ∧ ∀ map, read path (some table) = .ok map
        ↔ (∀ key ∈ table.keys, ∃ index, Denotes key index)
          ∧ ∀ index scope, map.get? index = some scope ↔ table.IsLast index scope := by
  have hok := exists_read_iff_forall_denotes path table
  refine ⟨?_, fun error => read_eq_error_iff, ?_⟩
  . have hfails : (∃ key ∈ table.keys, ¬ ∃ index, Denotes key index)
        ↔ ¬ ∃ map, read path (some table) = .ok map := by
      rw [hok]
      push Not
      rfl
    rw [hfails]
    cases read path (some table) with
    | error error => simp
    | ok map => simp
  . intro map
    constructor
    . intro hread
      exact ⟨hok.mp ⟨map, hread⟩, fun _ _ => get?_of_read hread⟩
    . rintro ⟨hkeys, hget⟩
      rcases hok.mpr hkeys with ⟨map', hread⟩
      have heq : map' = map := by
        apply SortedMap.ext_get?
        intro index
        ext scope
        rw [get?_of_read hread, hget]
      rw [hread, heq]

/-- A table in which keys of several spellings stand for the same group, with and without scopes. -/
def spellings : CaptureTable :=
  ⟨[(" 1", ⟨some "a"⟩), ("+1", ⟨some "b"⟩), ("01", ⟨none⟩), ("2\t", ⟨none⟩)], by decide⟩

theorem read_counts_last_spellings
    : ∃ map, read (.root 0) (some spellings) = .ok map ∧ map.get? 1 = some "b"
        ∧ map.get? 2 = none := by
  have hkeys : ∀ key ∈ spellings.keys, ∃ index, Denotes key index := by
    simp only [← index?_eq_some_iff, ← Option.isSome_iff_exists]
    decide
  have hnamed {key name : String} (hkey : spellings.get? key = some ⟨some name⟩)
      : key = " 1" ∨ key = "+1" := by
    have hmem := SortedMap.mem_of_get? hkey
    simp only [spellings, List.mem_cons, Prod.mk.injEq, CaptureSource.mk.injEq] at hmem
    grind
  have hread := (read_counts_last (.root 0) spellings).2.2
  rcases (exists_read_iff_forall_denotes (.root 0) spellings).mpr hkeys with ⟨map, hmap⟩
  rcases (hread map).mp hmap with ⟨-, hget⟩
  refine ⟨map, hmap, ?_, ?_⟩
  . rw [hget]
    refine ⟨"+1", by decide, index?_eq_some_iff.mp (by decide), ?_⟩
    intro other name hother _
    rcases hnamed hother with rfl | rfl
    . exact Or.inr (lt_iff_utf8_lt.mp (by decide))
    . exact Or.inl rfl
  . rw [Option.eq_none_iff_forall_ne_some]
    intro scope
    rw [ne_eq, hget]
    rintro ⟨key, hkey, hdenotes, -⟩
    rw [← index?_eq_some_iff] at hdenotes
    rcases hnamed hkey with rfl | rfl
    . contradiction
    . contradiction

end TextScopes.CaptureTable
