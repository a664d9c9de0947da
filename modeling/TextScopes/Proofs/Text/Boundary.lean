import TextScopes.Text.Basic

/-!
This module contains the theory of boundaries, the offsets at which a text falls into two texts.
On boundaries `floor` changes nothing and `slice?` always has a piece to give.
-/

namespace TextScopes.Text

/-- Whether an offset falls between two characters, or at an end of the text. -/
def IsBoundary (text : Text) (n : Nat) : Prop :=
  ∃ before after, before ++ after = text ∧ size before = n

theorem size_pos {text : Text} (h : text ≠ []) : 0 < size text := by
  cases text with
  | nil => contradiction
  | cons c rest =>
    have := Char.utf8Size_pos c
    rw [size_cons]
    omega

theorem eq_nil_of_size_eq_zero {text : Text} (h : size text = 0) : text = [] := by
  cases text with
  | nil => rfl
  | cons c rest =>
    have := size_pos (List.cons_ne_nil c rest)
    omega

theorem isBoundary_zero (text : Text) : text.IsBoundary 0 := by
  exact ⟨[], text, rfl, rfl⟩

theorem isBoundary_size (text : Text) : text.IsBoundary text.size := by
  exact ⟨text, [], by simp, rfl⟩

theorem IsBoundary.le_size {text : Text} {n : Nat} (h : text.IsBoundary n) : n ≤ text.size := by
  rcases h with ⟨before, after, rfl, rfl⟩
  simp

theorem floor_of_isBoundary {text : Text} {n : Nat} (h : text.IsBoundary n) : text.floor n = n := by
  rcases h with ⟨before, after, rfl, rfl⟩
  induction before with
  | nil =>
    cases after with
    | nil => rfl
    | cons c rest =>
      have := Char.utf8Size_pos c
      simp [floor]
      omega
  | cons c rest ih =>
    simp [floor]
    rw [ih]

theorem isBoundary_floor (text : Text) (n : Nat) : text.IsBoundary (text.floor n) := by
  fun_induction floor text n with
  | case1 => exact isBoundary_zero []
  | case2 c rest n hle ih =>
    rcases ih with ⟨before, after, rfl, hsize⟩
    exact ⟨c :: before, after, rfl, by rw [size_cons, hsize]⟩
  | case3 c rest n hlt => exact isBoundary_zero (c :: rest)

theorem floor_le (text : Text) (n : Nat) : text.floor n ≤ n := by
  fun_induction floor text n with
  | case1 => exact Nat.zero_le _
  | case2 c rest n hle ih => omega
  | case3 => exact Nat.zero_le _

theorem floor_le_floor (text : Text) {m n : Nat} (h : m ≤ n) : text.floor m ≤ text.floor n := by
  fun_induction floor text m generalizing n with
  | case1 => exact Nat.zero_le _
  | case2 c rest m hle ih =>
    have hrest := ih (Nat.sub_le_sub_right h c.utf8Size)
    rw [floor, if_pos (Nat.le_trans hle h)]
    omega
  | case3 => exact Nat.zero_le _

theorem IsBoundary.le_floor {text : Text} {m n : Nat} (hm : text.IsBoundary m) (h : m ≤ n)
    : m ≤ text.floor n := by
  rw [← floor_of_isBoundary hm]
  exact text.floor_le_floor h

theorem append_inj_of_size {a b c d : Text} (h : a ++ b = c ++ d) (hsize : size a = size c)
    : a = c ∧ b = d := by
  rcases List.append_eq_append_iff.mp h with ⟨piece, rfl, rfl⟩ | ⟨piece, rfl, rfl⟩
  all_goals
    have : piece = [] := by
      apply eq_nil_of_size_eq_zero
      simp at hsize
      omega
    subst this
    simp

theorem mem_of_append_eq {front tail before w after : Text} {c : Char}
    (h : front ++ c :: tail = before ++ (w ++ after)) (hle : before.size ≤ front.size)
    (hlt : front.size < (before ++ w).size) : c ∈ w := by
  have hhead {piece : Text} (heq : c :: tail = piece ++ after) (hpiece : piece ≠ [])
      : c ∈ piece := by
    cases piece with
    | nil => contradiction
    | cons d piece =>
      cases heq
      exact List.mem_cons_self
  rw [size_append] at hlt
  -- the character stands right at the start of the piece, or further on
  rcases List.append_eq_append_iff.mp h with ⟨a, hbefore, heq⟩ | ⟨a, hfront, heq⟩
  . have ha : a = [] := by
      apply eq_nil_of_size_eq_zero
      rw [hbefore, size_append] at hle
      omega
    subst ha
    apply hhead heq
    rintro rfl
    rw [size_nil] at hlt
    omega
  . rw [hfront, size_append] at hlt
    rcases List.append_eq_append_iff.mp heq with ⟨b, hab, heq⟩ | ⟨b, hwb, heq⟩
    . rw [hab, size_append] at hlt
      omega
    . rw [hwb]
      apply List.mem_append_right
      apply hhead heq
      rintro rfl
      rw [hwb, size_append, size_nil] at hlt
      omega

theorem drop?_eq_some_iff {text rest : Text} {n : Nat}
    : text.drop? n = some rest ↔ ∃ before, before ++ rest = text ∧ size before = n := by
  constructor
  . intro h
    fun_induction drop? text n with
    | case1 => exact ⟨[], by simpa using h.symm, rfl⟩
    | case2 => contradiction
    | case3 c tail n hle ih =>
      rcases ih h with ⟨before, rfl, hsize⟩
      exact ⟨c :: before, rfl, by simp; omega⟩
    | case4 => contradiction
  . rintro ⟨before, rfl, rfl⟩
    induction before with
    | nil => cases rest <;> rfl
    | cons c before ih =>
      have := Char.utf8Size_pos c
      obtain ⟨n, hn⟩ : ∃ n, size (c :: before) = n + 1 := ⟨size (c :: before) - 1, by simp; omega⟩
      rw [hn, List.cons_append, drop?]
      rw [size_cons] at hn
      rw [if_pos (by omega)]
      rw [← hn, Nat.add_sub_cancel_left]
      exact ih

theorem take?_eq_some_iff {text piece : Text} {n : Nat}
    : text.take? n = some piece ↔ ∃ after, piece ++ after = text ∧ size piece = n := by
  constructor
  . intro h
    fun_induction take? text n generalizing piece with
    | case1 text => exact ⟨text, by simp_all⟩
    | case2 => contradiction
    | case3 c tail n hle ih =>
      rcases Option.map_eq_some_iff.mp h with ⟨piece, hpiece, rfl⟩
      rcases ih hpiece with ⟨after, rfl, hsize⟩
      exact ⟨after, rfl, by simp; omega⟩
    | case4 => contradiction
  . rintro ⟨after, rfl, rfl⟩
    induction piece with
    | nil => cases after <;> rfl
    | cons c piece ih =>
      have := Char.utf8Size_pos c
      obtain ⟨n, hn⟩ : ∃ n, size (c :: piece) = n + 1 := ⟨size (c :: piece) - 1, by simp; omega⟩
      rw [hn, List.cons_append, take?]
      rw [size_cons] at hn
      rw [if_pos (by omega)]
      rw [← hn, Nat.add_sub_cancel_left, ih]
      rfl

theorem slice?_eq_some_iff {text piece : Text} {m n : Nat}
    : text.slice? m n = some piece
        ↔ ∃ before after, before ++ (piece ++ after) = text ∧ size before = m ∧ n = m + size piece
    := by
  unfold slice?
  constructor
  . intro h
    split at h
    . next hle =>
      rcases Option.bind_eq_some_iff.mp h with ⟨rest, hdrop, htake⟩
      rcases drop?_eq_some_iff.mp hdrop with ⟨before, rfl, rfl⟩
      rcases take?_eq_some_iff.mp htake with ⟨after, rfl, hsize⟩
      exact ⟨before, after, rfl, rfl, by omega⟩
    . contradiction
  . rintro ⟨before, after, rfl, rfl, rfl⟩
    rw [if_pos (by omega)]
    rw [drop?_eq_some_iff.mpr ⟨before, rfl, rfl⟩]
    rw [Nat.add_sub_cancel_left]
    exact take?_eq_some_iff.mpr ⟨after, rfl, rfl⟩

theorem size_of_slice? {text piece : Text} {m n : Nat} (h : text.slice? m n = some piece)
    : n = m + size piece := by
  rcases slice?_eq_some_iff.mp h with ⟨_, _, _, _, hsize⟩
  exact hsize

theorem isBoundary_of_slice? {text piece : Text} {m n : Nat} (h : text.slice? m n = some piece)
    : text.IsBoundary n := by
  rcases slice?_eq_some_iff.mp h with ⟨before, after, rfl, rfl, rfl⟩
  exact ⟨before ++ piece, after, by simp, by simp⟩

theorem IsBoundary.exists_slice {text : Text} {m n : Nat} (hm : text.IsBoundary m)
    (hn : text.IsBoundary n) (hle : m ≤ n) : ∃ piece, text.slice? m n = some piece := by
  rcases hm with ⟨before, rest, htext, rfl⟩
  rcases hn with ⟨longer, after, rfl, rfl⟩
  rcases List.append_eq_append_iff.mp htext with ⟨piece, rfl, rfl⟩ | ⟨piece, rfl, rfl⟩
  . exact ⟨piece, slice?_eq_some_iff.mpr ⟨before, after, by simp, rfl, by simp⟩⟩
  . have : piece = [] := by
      apply eq_nil_of_size_eq_zero
      simp at hle
      omega
    subst this
    exact ⟨[], slice?_eq_some_iff.mpr ⟨longer, rest, by simp, by simp, by simp⟩⟩

theorem slice?_append {text a b : Text} {l m n : Nat} (ha : text.slice? l m = some a)
    (hb : text.slice? m n = some b) : text.slice? l n = some (a ++ b) := by
  rcases slice?_eq_some_iff.mp ha with ⟨before, rest, rfl, rfl, rfl⟩
  rcases slice?_eq_some_iff.mp hb with ⟨longer, after, htext, hsize, rfl⟩
  rw [← List.append_assoc before] at htext
  rcases append_inj_of_size htext (by simpa using hsize) with ⟨rfl, rfl⟩
  exact slice?_eq_some_iff.mpr ⟨before, after, by simp, rfl, by simp; omega⟩

theorem slice?_zero_size (text : Text) : text.slice? 0 text.size = some text := by
  exact slice?_eq_some_iff.mpr ⟨[], [], by simp, rfl, by simp⟩

end TextScopes.Text
