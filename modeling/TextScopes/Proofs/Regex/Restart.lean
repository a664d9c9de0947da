import TextScopes.Proofs.Regex.Search
import TextScopes.Proofs.Text.Boundary

/-!
This module contains the search for matches by restarts. Each search begins at an offset, which is
where the match before ends, or one character further if that match is empty. The offsets lie on
boundaries of the text, and what is found are all matches.
-/

namespace TextScopes.Regex

/-- The first match that begins at or behind an offset. -/
def findFrom? (re : Regex) (text : Text) (from_ : Nat) : Option Hit :=
  ((Cursor.start text).onward.filter (from_ ≤ ·.offset)).findSome? re.matchAt?

/-- Where to search on behind a match. Behind an empty one a character is stepped over, so that the
same match is not found again. -/
def restart? (text : Text) (hit : Hit) : Option Nat :=
  if hit.start = hit.stop then
    (text.drop? hit.stop).map fun rest =>
      rest.head?.elim (text.size + 1) fun c => hit.stop + c.utf8Size
  else some hit.stop

/-- The matches at or behind an offset, found in at most so many searches. -/
def searchFrom? (re : Regex) (text : Text) : (rounds : Nat) → (from_ : Nat) → Option (List Hit)
  | 0, _ => none
  | rounds + 1, from_ =>
    if text.size < from_ then some []
    else
      match re.findFrom? text from_ with
      | none => some []
      | some hit => do
        let next ← restart? text hit
        let hits ← re.searchFrom? text rounds next
        some (hit :: hits)

/-- All matches in a text. Each search begins behind the one before, so that their number is
bounded. -/
def search? (re : Regex) (text : Text) : Option (List Hit) :=
  re.searchFrom? text (text.size + 2) 0

variable {re : Regex} {text : Text} {hit : Hit} {cursors : List Cursor} {a b from_ : Nat}

namespace hits

theorem go_filter (h : a ≤ b) : go re b (cursors.filter (a ≤ ·.offset)) = go re b cursors := by
  induction cursors generalizing b with
  | nil => rfl
  | cons cursor cursors ih =>
    by_cases ha : a ≤ cursor.offset
    . rw [List.filter_cons_of_pos (by simpa using ha), go, go, ih h]
      split
      . rfl
      . split
        . next hit hhit =>
          have hstart := start_of_matchAt? hhit
          rcases exists_word_of_matchAt? hhit with ⟨w, behind, -, -, hstop⟩
          rw [ih (by omega)]
        . rfl
    . rw [List.filter_cons_of_neg (by simpa using ha), go, if_pos (by omega), ih h]

theorem go_eq_of_forall (h : ∀ cursor ∈ cursors, b ≤ cursor.offset) (hab : a ≤ b)
    : go re a cursors = go re b cursors := by
  induction cursors with
  | nil => rfl
  | cons cursor cursors ih =>
    have hcursor := h cursor List.mem_cons_self
    rw [go, go, if_neg (by omega), if_neg (by omega),
      ih fun cursor hcursor => h cursor (List.mem_cons_of_mem _ hcursor)]

theorem go_eq_nil (h : (cursors.filter (from_ ≤ ·.offset)).findSome? re.matchAt? = none)
    : go re from_ cursors = [] := by
  rw [← go_filter (Nat.le_refl from_)]
  generalize cursors.filter (from_ ≤ ·.offset) = behind at h
  induction behind with
  | nil => rfl
  | cons cursor cursors ih =>
    rcases List.findSome?_eq_none_iff.mp h with hnone
    rw [go, hnone cursor List.mem_cons_self]
    have hrest := ih (List.findSome?_eq_none_iff.mpr
      fun cursor hcursor => hnone cursor (List.mem_cons_of_mem _ hcursor))
    split
    . exact hrest
    . exact hrest

theorem go_eq_cons (hcursors : cursors.Pairwise fun a b => a.offset < b.offset)
    (h : (cursors.filter (from_ ≤ ·.offset)).findSome? re.matchAt? = some hit)
    : go re from_ cursors
      = hit :: go re hit.stop (cursors.filter (hit.start + 1 ≤ ·.offset)) := by
  induction cursors with
  | nil => contradiction
  | cons cursor cursors ih =>
    rw [List.pairwise_cons] at hcursors
    have hlater {hit : Hit}
        (hhit : (cursors.filter (from_ ≤ ·.offset)).findSome? re.matchAt? = some hit)
        : cursor.offset < hit.start := by
      rcases List.exists_of_findSome?_eq_some hhit with ⟨other, hother, hmatch⟩
      rw [start_of_matchAt? hmatch]
      exact hcursors.1 other (List.mem_filter.mp hother).1
    -- a place in front of `from_`, one with the first match, or one without a match
    by_cases hlt : cursor.offset < from_
    . rw [List.filter_cons_of_neg (by simpa using hlt)] at h
      have hstart := hlater h
      rw [List.filter_cons_of_neg (by simp; omega), go, if_pos hlt, ih hcursors.2 h]
    . rw [List.filter_cons_of_pos (by simp; omega), List.findSome?_cons] at h
      cases hfirst : re.matchAt? cursor with
      | some first =>
        rw [hfirst] at h
        cases h
        have hstart := start_of_matchAt? hfirst
        rw [List.filter_cons_of_neg (by simp; omega), go, if_neg hlt, hfirst]
        have hall : cursors.filter (hit.start + 1 ≤ ·.offset) = cursors := by
          rw [List.filter_eq_self]
          intro other hother
          have := hcursors.1 other hother
          simp
          omega
        rw [hall]
      | none =>
        rw [hfirst] at h
        have hstart := hlater h
        rw [List.filter_cons_of_neg (by simp; omega), go, if_neg hlt, hfirst]
        exact ih hcursors.2 h

theorem go_restart {next : Nat} (hlt : hit.start < next) (hstop : hit.stop ≤ next)
    (h : ∀ cursor ∈ cursors, hit.start < cursor.offset → hit.stop ≤ cursor.offset →
      next ≤ cursor.offset)
    : go re hit.stop (cursors.filter (hit.start + 1 ≤ ·.offset)) = go re next cursors := by
  rw [← go_filter (Nat.le_refl hit.stop)]
  have hbehind : ∀ cursor ∈ (cursors.filter (hit.start + 1 ≤ ·.offset)).filter
      (hit.stop ≤ ·.offset), next ≤ cursor.offset := by
    intro cursor hcursor
    rcases List.mem_filter.mp hcursor with ⟨hcursor, hstop⟩
    rcases List.mem_filter.mp hcursor with ⟨hcursor, hstart⟩
    exact h cursor hcursor (of_decide_eq_true hstart) (of_decide_eq_true hstop)
  rw [go_eq_of_forall hbehind hstop, go_filter hstop, go_filter hlt]

end hits

theorem offset_le_of_mem_onward {cursor : Cursor} (h : cursor ∈ (Cursor.start text).onward)
    : cursor.offset ≤ text.size := by
  rcases Cursor.mem_onward_iff.mp h with ⟨before, rest, rfl, rfl⟩
  unfold Cursor.between
  rw [Text.size_append]
  exact Nat.le_add_right _ _

theorem le_offset_of_mem_onward {before rest : Text} {c : Char} {cursor : Cursor}
    (h : cursor ∈ (Cursor.start (before ++ c :: rest)).onward) (hlt : before.size < cursor.offset)
    : before.size + c.utf8Size ≤ cursor.offset := by
  rcases Cursor.mem_onward_iff.mp h with ⟨front, behind, htext, rfl⟩
  unfold Cursor.between at hlt ⊢
  dsimp only at hlt ⊢
  rcases List.append_eq_append_iff.mp htext with ⟨piece, rfl, -⟩ | ⟨piece, rfl, heq⟩
  . rw [Text.size_append] at hlt
    omega
  . cases piece with
    | nil =>
      rw [List.append_nil] at hlt
      exact absurd hlt (Nat.lt_irrefl _)
    | cons d piece =>
      cases heq
      rw [Text.size_append, Text.size_cons]
      omega

theorem isPiece_of_matchAt? {cursor : Cursor} (hcursor : cursor ∈ (Cursor.start text).onward)
    (h : re.matchAt? cursor = some hit)
    : hit.start ≤ hit.stop ∧ text.IsBoundary hit.start ∧ text.IsBoundary hit.stop := by
  rcases Cursor.mem_onward_iff.mp hcursor with ⟨before, rest, rfl, rfl⟩
  rcases exists_word_of_matchAt? h with ⟨w, behind, hrest, -, hstop⟩
  have hrest : rest = w ++ behind := hrest
  subst hrest
  rw [hstop, start_of_matchAt? h]
  refine ⟨Nat.le_add_right _ _, ⟨before, w ++ behind, rfl, rfl⟩, ?_⟩
  exact ⟨before ++ w, behind, List.append_assoc _ _ _, Text.size_append _ _⟩

theorem isPiece_of_mem_hits (h : hit ∈ re.hits text)
    : hit.start ≤ hit.stop ∧ text.IsBoundary hit.start ∧ text.IsBoundary hit.stop := by
  rcases hits.exists_of_mem_go h with ⟨cursor, hcursor, hmatch⟩
  exact isPiece_of_matchAt? hcursor hmatch

/-- A restart is always possible, moves on, and passes no place at which a match could begin. -/
theorem exists_restart? (hboundary : text.IsBoundary hit.stop) (hle : hit.start ≤ hit.stop)
    : ∃ next, restart? text hit = some next ∧ hit.start < next ∧ hit.stop ≤ next
      ∧ next ≤ text.size + 1
      ∧ ∀ cursor ∈ (Cursor.start text).onward, hit.start < cursor.offset →
          hit.stop ≤ cursor.offset → next ≤ cursor.offset := by
  unfold restart?
  have hsize := hboundary.le_size
  by_cases hempty : hit.start = hit.stop
  . rcases hboundary with ⟨before, rest, rfl, hbefore⟩
    rw [if_pos hempty, Text.drop?_eq_some_iff.mpr ⟨before, rfl, hbefore⟩, Option.map_some]
    -- behind an empty match the search steps over a character, or over the end of the text
    cases rest with
    | nil =>
      refine ⟨_, rfl, ?_⟩
      rw [List.head?_nil, Option.elim_none]
      refine ⟨by omega, by omega, Nat.le_refl _, ?_⟩
      intro cursor hcursor hlt _
      have hoffset := offset_le_of_mem_onward hcursor
      rw [List.append_nil] at *
      omega
    | cons c rest =>
      refine ⟨_, rfl, ?_⟩
      have hpos := c.utf8Size_pos
      rw [List.head?_cons, Option.elim_some, Text.size_append, Text.size_cons]
      refine ⟨by omega, by omega, by omega, ?_⟩
      intro cursor hcursor hlt _
      have hoffset := le_offset_of_mem_onward hcursor (by omega)
      omega
  . rw [if_neg hempty]
    exact ⟨hit.stop, rfl, by omega, Nat.le_refl _, by omega, fun cursor _ _ hstop => hstop⟩

theorem searchFrom?_eq {rounds : Nat} (hfrom : from_ ≤ text.size + 1)
    (hrounds : text.size + 2 ≤ rounds + from_)
    : re.searchFrom? text rounds from_
      = some (hits.go re from_ (Cursor.start text).onward) := by
  induction rounds generalizing from_ with
  | zero => omega
  | succ rounds ih =>
    have hcursors : (Cursor.start text).onward.Pairwise fun a b => a.offset < b.offset :=
      Cursor.onward.pairwise_go none 0 text
    unfold searchFrom?
    split
    . next hlt =>
      have hnone : (Cursor.start text).onward.filter (from_ ≤ ·.offset) = [] := by
        rw [List.filter_eq_nil_iff]
        intro cursor hcursor
        have hoffset := offset_le_of_mem_onward hcursor
        simp
        omega
      rw [← hits.go_filter (Nat.le_refl from_), hnone]
      rfl
    . cases hfind : re.findFrom? text from_ with
      | none =>
        rw [hits.go_eq_nil hfind]
      | some hit =>
        rcases List.exists_of_findSome?_eq_some hfind with ⟨cursor, hcursor, hmatch⟩
        rcases List.mem_filter.mp hcursor with ⟨hcursor, hoffset⟩
        rcases isPiece_of_matchAt? hcursor hmatch with ⟨hle, -, hboundary⟩
        have hstart : from_ ≤ hit.start := start_of_matchAt? hmatch ▸ of_decide_eq_true hoffset
        rcases exists_restart? hboundary hle with ⟨next, hnext, hlt, hstop, hsize, hpasses⟩
        dsimp only
        rw [hnext, hits.go_eq_cons hcursors hfind, hits.go_restart hlt hstop hpasses]
        dsimp only [bind, Option.bind]
        rw [ih hsize (by omega)]

theorem search?_eq (re : Regex) (text : Text) : re.search? text = some (re.hits text) :=
  searchFrom?_eq (Nat.zero_le _) (Nat.le_refl _)

theorem mem_hits_of_findFrom? (h : re.findFrom? text hit.start = some hit)
    (hclear : re.IsClear text hit.start) : hit ∈ re.hits text := by
  rcases List.exists_of_findSome?_eq_some h with ⟨cursor, hcursor, hmatch⟩
  rcases List.mem_filter.mp hcursor with ⟨hcursor, -⟩
  rw [start_of_matchAt? hmatch] at hclear
  exact hits.mem_go (Cursor.onward.pairwise_go none 0 text) hcursor (Nat.zero_le _) hclear hmatch

/-- The search comes to an end. Its matches stand one behind the other, further on still behind an
empty one, and what a search from any place finds right there is one of them unless one of them
reaches over that place. So a match that begins where another one ends is never left out. -/
theorem search?_finds_all (re : Regex) (text : Text)
    : re.search? text = some (re.hits text)
      ∧ (re.hits text).IsChain (fun a b => a.stop ≤ b.start ∧ (a.start = a.stop → a.stop < b.start))
      ∧ (re.hits text).Pairwise (fun a b => a.start < b.start)
      ∧ (∀ p hit, text.IsBoundary p → re.findFrom? text p = some hit → hit.start = p →
          hit ∈ re.hits text ∨ ∃ other ∈ re.hits text, other.start < p ∧ p < other.stop)
      ∧ ∀ first ∈ re.hits text, ∀ hit, re.findFrom? text first.stop = some hit →
          hit.start = first.stop → hit ∈ re.hits text := by
  have hordered := re.pairwise_hits text
  refine ⟨search?_eq re text, ?_, hordered.imp And.right, ?_, ?_⟩
  . apply List.Pairwise.isChain
    apply hordered.imp
    intro a b hab
    exact ⟨hab.1, fun hempty => hempty ▸ hab.2⟩
  . rintro p hit - hfind rfl
    by_cases hclear : re.IsClear text hit.start
    . exact Or.inl (mem_hits_of_findFrom? hfind hclear)
    . unfold IsClear at hclear
      push Not at hclear
      exact Or.inr hclear
  . intro first hfirst hit hfind hstart
    rw [← hstart] at hfind
    exact mem_hits_of_findFrom? hfind (hstart ▸ isClear_stop hfirst)

example : ((⟨"\"|$", .alternation [.literal ['"'], .look .lineEnd]⟩ : Regex).hits
      "é\"\ny".toList).map (fun hit => (hit.start, hit.stop)) = [(2, 3), (3, 3), (5, 5)] := by
  decide

end TextScopes.Regex
