import TextScopes.Regex.Size
import TextScopes.Text.Word

/-!
This module contains what is known of the table of word characters: its ranges ascend with gaps
between them, they begin with the digits, and a pattern for them is small.
-/

namespace TextScopes

namespace CharSet

/-- Whether ranges ascend from a code point on, with a gap between any two. -/
def ascendFrom (least : Nat) : List (Nat × Nat) → Bool
  | [] => true
  | (low, high) :: rest => least ≤ low && low ≤ high && ascendFrom (high + 2) rest

theorem insertRange_eq_append {low high : Nat} {ranges : List (Nat × Nat)}
    (h : ∀ range ∈ ranges, range.1 ≤ range.2 ∧ range.2 + 2 ≤ low) (hle : low ≤ high)
    : insertRange low high ranges = ranges ++ [(low, high)] := by
  induction ranges with
  | nil => rfl
  | cons range rest ih =>
    rcases range with ⟨a, b⟩
    have hrange := h (a, b) List.mem_cons_self
    dsimp only at hrange
    rw [insertRange, if_neg (by omega), if_pos (by omega),
      ih fun range hrange => h range (List.mem_cons_of_mem _ hrange)]
    rfl

theorem foldl_insertRange {least : Nat} {ranges before : List (Nat × Nat)}
    (hranges : ascendFrom least ranges)
    (hbefore : ∀ range ∈ before, range.1 ≤ range.2 ∧ range.2 + 2 ≤ least)
    : ranges.foldl (fun acc (low, high) => insertRange low high acc) before = before ++ ranges := by
  induction ranges generalizing least before with
  | nil => simp
  | cons range rest ih =>
    rcases range with ⟨low, high⟩
    simp only [ascendFrom, Bool.and_eq_true, decide_eq_true_eq] at hranges
    have hinsert : insertRange low high before = before ++ [(low, high)] := by
      apply insertRange_eq_append _ hranges.1.2
      intro range hrange
      have := hbefore range hrange
      omega
    rw [List.foldl_cons]
    dsimp only
    rw [hinsert, ih hranges.2]
    . simp
    . intro range hrange
      rcases List.mem_append.mp hrange with hrange | hrange
      . have := hbefore range hrange
        omega
      . rw [List.mem_singleton.mp hrange]
        exact ⟨hranges.1.2, Nat.le_refl _⟩

theorem empty_union {s : CharSet} (h : ascendFrom 0 s.ranges) : ∅ ∪ s = s := by
  have hfold : s.ranges.foldl (fun acc (low, high) => insertRange low high acc) []
      = [] ++ s.ranges := foldl_insertRange h (by simp)
  exact congrArg CharSet.mk hfold

theorem eq_mk {s : CharSet} {ranges : List (Nat × Nat)} (h : s.ranges = ranges) : s = ⟨ranges⟩ := by
  rw [← h]

theorem ofTable_ofList (chars : List Char)
    : ofTable (String.ofList chars) = ⟨ofTable.go none none [] chars⟩ := by
  rw [ofTable, String.toList_ofList]

end CharSet

namespace Regex.Expr

theorem unshared_le {α : Type} [BEq α] (as bs : List α) : unshared as bs ≤ bs.length := by
  fun_induction unshared as bs with
  | case1 a as b bs heq ih => exact Nat.le_succ_of_le ih
  | case2 => exact Nat.le_refl _
  | case3 => exact Nat.le_refl _

theorem treeSize_le {α : Type} [BEq α] (previous : List α) (sequences : List (List α))
    : treeSize previous sequences ≤ treeSize [] sequences := by
  cases sequences with
  | nil => exact Nat.le_refl _
  | cons first rest =>
    have hle := unshared_le previous first
    have hnil : unshared [] first = first.length := by
      cases first with
      | nil => rfl
      | cons a rest => rfl
    rw [treeSize, treeSize, hnil]
    exact Nat.add_le_add_right hle _

theorem byteRanges_of_ascii {low high : Nat} (hle : low ≤ high) (hhigh : high < 0x80)
    : byteRanges 16 low high = [[(low, high)]] := by
  have hlow : low < 0x80 := by omega
  have hcut : cut? low high = none := by
    rw [cut?, if_pos hhigh]
  have hpoint : (0xD800 ≤ low && high ≤ 0xDFFF) = false := by
    simp
    omega
  rw [byteRanges, hcut]
  simp [hpoint, utf8Bytes, hlow, hhigh]

theorem setSize_cons_le {low high : Nat} {ranges : List (Nat × Nat)} (hle : low ≤ high)
    (hhigh : high < 0x80) (hranges : CharSet.isAscii ⟨ranges⟩ = false)
    : setSize ⟨(low, high) :: ranges⟩ ≤ setSize ⟨ranges⟩ + 2 * stateSize := by
  have hascii : CharSet.isAscii ⟨(low, high) :: ranges⟩ = false := by
    unfold CharSet.isAscii at *
    rw [List.all_cons, hranges, Bool.and_false]
  have hempty : CharSet.isEmpty ⟨ranges⟩ = false := by
    cases ranges with
    | nil => contradiction
    | cons range rest => rfl
  have hnonempty : CharSet.isEmpty ⟨(low, high) :: ranges⟩ = false := rfl
  unfold setSize
  rw [hranges, hascii, hempty, hnonempty]
  simp only [Bool.false_eq_true, if_false, List.flatMap_cons, byteRanges_of_ascii hle hhigh]
  generalize ranges.flatMap _ = sequences
  have hle := treeSize_le [(low, high)] sequences
  have htree : treeSize [] ([[(low, high)]] ++ sequences) = 1 + treeSize [(low, high)] sequences :=
    rfl
  rw [htree, List.length_append]
  simp only [List.length_singleton, stateSize, edgeSize]
  omega

end Regex.Expr

section Table

-- the table is long
set_option maxRecDepth 20000

theorem ascendFrom_wordChars : CharSet.ascendFrom 0 wordChars.ranges := by
  unfold wordChars
  rw [CharSet.ofTable_ofList]
  decide +kernel

theorem exists_wordChars_eq : ∃ ranges, wordChars = ⟨(0x30, 0x39) :: ranges⟩ := by
  have hhead : wordChars.ranges.head? = some (0x30, 0x39) := by
    unfold wordChars
    rw [CharSet.ofTable_ofList]
    decide +kernel
  rcases List.head?_eq_some_iff.mp hhead with ⟨ranges, hranges⟩
  exact ⟨ranges, CharSet.eq_mk hranges⟩

theorem isAscii_wordChars : CharSet.isAscii ⟨wordChars.ranges⟩ = false := by
  unfold wordChars
  rw [CharSet.ofTable_ofList]
  decide +kernel

theorem setSize_wordChars_le : Regex.Expr.setSize ⟨wordChars.ranges⟩ ≤ 50000 := by
  unfold wordChars
  rw [CharSet.ofTable_ofList]
  decide +kernel

end Table

end TextScopes
