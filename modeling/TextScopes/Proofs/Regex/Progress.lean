import TextScopes.Regex.Match

/-!
This module contains what repetitions do to a thread. A repetition gets from a thread to the threads
it lists by making choices, reading characters and going through its body, so a relation that is
kept by each of these steps, and by one step after the other, is kept by the repetition.
-/

namespace TextScopes.Regex

open Thread

namespace Thread

theorem distinct.mem_of_mem_go {t : Thread} (seen : Offsets) (threads : List Thread)
    (h : t ∈ go seen threads) : t ∈ threads := by
  fun_induction go seen threads with
  | case1 => contradiction
  | case2 seen head rest hseen ih => exact List.mem_cons_of_mem head (ih h)
  | case3 seen head rest hseen ih =>
    cases h with
    | head => apply List.mem_cons_self
    | tail _ h => exact List.mem_cons_of_mem head (ih h)

theorem mem_of_mem_distinct {t : Thread} {threads : List Thread} (h : t ∈ distinct threads)
    : t ∈ threads := by
  unfold distinct at h
  split at h
  . exact h
  . exact h
  . exact distinct.mem_of_mem_go _ _ h

end Thread

section Lists

variable {R : Thread → Thread → Prop} {body : Thread → List Thread}

theorem exists_of_mem_each (hbody : ∀ s, ∀ t ∈ body s, R s t) {threads : List Thread} {t : Thread}
    (h : t ∈ each body threads) : ∃ s ∈ threads, R s t := by
  unfold each at h
  split at h
  . next s => exact ⟨s, List.mem_singleton_self s, hbody s t h⟩
  . rcases List.mem_flatMap.mp (mem_of_mem_distinct h) with ⟨s, hs, ht⟩
    exact ⟨s, hs, hbody s t ht⟩

theorem exists_of_mem_foldl_left {add : Iteration → Thread → Iteration} {t : Thread}
    (hadd : ∀ found s, t ∈ (add found s).left → t ∈ found.left ∨ R s t) {threads : List Thread}
    {found : Iteration} (h : t ∈ (threads.foldl add found).left)
    : t ∈ found.left ∨ ∃ s ∈ threads, R s t := by
  induction threads generalizing found with
  | nil => exact Or.inl h
  | cons head threads ih =>
    rcases ih h with h | ⟨s, hs, hst⟩
    . rcases hadd found head h with h | h
      . exact Or.inl h
      . exact Or.inr ⟨head, List.mem_cons_self, h⟩
    . exact Or.inr ⟨s, List.mem_cons_of_mem head hs, hst⟩

end Lists

/-- A relation between an earlier and a later state of a match that is kept by making a choice, by
reading a character in one of the ways that count, and by doing one thing after the other. -/
structure Progress (reads : (Char → Bool) → Prop) (R : Thread → Thread → Prop) : Prop where
  refl : ∀ t, R t t
  trans : ∀ {r s t}, R r s → R s t → R r t
  pass : ∀ address t, R t (t.pass address)
  read : ∀ {p s t}, reads p → s.read? p = some t → R s t

namespace Progress

variable {reads : (Char → Bool) → Prop} {R : Thread → Thread → Prop} (hR : Progress reads R)
include hR

theorem readAll? {chars : List Char} (hchars : ∀ c ∈ chars, reads (· == c)) {s t : Thread}
    (h : s.readAll? chars = some t) : R s t := by
  induction chars generalizing s with
  | nil =>
    cases h
    apply hR.refl
  | cons c chars ih =>
    rcases Option.bind_eq_some_iff.mp h with ⟨next, hnext, hrest⟩
    exact hR.trans (hR.read (hchars c List.mem_cons_self) hnext)
      (ih (fun c hc => hchars c (List.mem_cons_of_mem _ hc)) hrest)

theorem runs {chars : CharSet} (hchars : reads chars.contains) {copy : Nat → Nat}
    {address : Address} {times : Nat} {s t : Thread} (h : t ∈ runs chars copy address times s)
    : R s t := by
  induction times generalizing s with
  | zero =>
    rw [Regex.runs, List.mem_singleton] at h
    rw [h]
    apply hR.refl
  | succ times ih =>
    simp only [Regex.runs] at h
    apply hR.trans (hR.pass (0 :: copy (times + 1) :: address) s)
    split at h
    . next next hnext =>
      cases h with
      | head => apply hR.refl
      | tail _ h => exact hR.trans (hR.read hchars hnext) (ih h)
    . rw [List.mem_singleton] at h
      rw [h]
      apply hR.refl

variable {body : Nat → Thread → List Thread} (hbody : ∀ copy s, ∀ t ∈ body copy s, R s t)
include hbody

theorem exactly {done times : Nat} {threads : List Thread} {t : Thread}
    (h : t ∈ exactly body done times threads) : ∃ s ∈ threads, R s t := by
  induction times generalizing done threads with
  | zero => exact ⟨t, by simpa [Regex.exactly] using h, hR.refl t⟩
  | succ times ih =>
    unfold Regex.exactly at h
    split at h
    . contradiction
    . rcases ih h with ⟨next, hnext, hrest⟩
      rcases exists_of_mem_each (hbody (done + 1)) hnext with ⟨s, hs, hfirst⟩
      exact ⟨s, hs, hR.trans hfirst hrest⟩

theorem iterate {copy : Nat → Nat} {greedy : Bool} {address : Address} {times : Nat} {s t : Thread}
    {found : Iteration} (h : t ∈ (iterate body copy greedy address times s found).left)
    : t ∈ found.left ∨ R s t := by
  induction times generalizing s t found with
  | zero =>
    rcases List.mem_cons.mp h with rfl | h
    . exact Or.inr (hR.refl t)
    . exact Or.inl h
  | succ times ih =>
    rw [Regex.iterate] at h
    dsimp only at h
    split at h
    . exact Or.inl h
    . have hpass := hR.pass (0 :: copy (times + 1) :: address) s
      have hinside (s' : Thread) (hs' : s' ∈ body (copy (times + 1))
          (s.pass (0 :: copy (times + 1) :: address))) (hst : R s' t) : R s t :=
        hR.trans hpass (hR.trans (hbody _ _ s' hs') hst)
      have hadd (found : Iteration) (s' : Thread)
          (h : t ∈ (Regex.iterate body copy greedy address times s' found).left)
          : t ∈ found.left ∨ R s' t := ih h
      -- a greedy repetition lists the thread that goes no further last, others list it first
      cases greedy with
      | true =>
        rcases List.mem_cons.mp h with rfl | h
        . exact Or.inr hpass
        . rcases exists_of_mem_foldl_left hadd h with h | ⟨s', hs', hst⟩
          . exact Or.inl h
          . exact Or.inr (hinside s' hs' hst)
      | false =>
        rcases exists_of_mem_foldl_left hadd h with h | ⟨s', hs', hst⟩
        . rcases List.mem_cons.mp h with rfl | h
          . exact Or.inr hpass
          . exact Or.inl h
        . exact Or.inr (hinside s' hs' hst)

theorem iterateEach {copy : Nat → Nat} {greedy : Bool} {address : Address} {times : Nat}
    {threads : List Thread} {t : Thread}
    (h : t ∈ iterateEach body copy greedy address times threads) : ∃ s ∈ threads, R s t := by
  have hleft := List.mem_reverse.mp (mem_of_mem_distinct h)
  have hadd (found : Iteration) (s : Thread)
      (h : t ∈ (Regex.iterate body copy greedy address times s found).left)
      : t ∈ found.left ∨ R s t := hR.iterate hbody h
  rcases exists_of_mem_foldl_left hadd hleft with h | h
  . contradiction
  . exact h

theorem repeated {chars : Option CharSet} (hchars : ∀ set, chars = some set → reads set.contains)
    {readsSomething greedy : Bool} {least : Nat} {most : Option Nat} {address : Address}
    {s t : Thread} (h : t ∈ repeated body chars readsSomething greedy least most address s)
    : R s t := by
  have hstart {mid : Thread} (hmid : mid ∈ Regex.exactly body 0 least [s]) : R s mid := by
    rcases hR.exactly hbody hmid with ⟨s', hs', hst⟩
    rw [List.mem_singleton] at hs'
    rw [← hs']
    exact hst
  have hpass := hR.pass (2 :: address) s
  have hagain {copy : Nat → Nat} {times : Nat} (h : t ∈ Regex.iterateEach body copy greedy address
      times (body 0 (s.pass (2 :: address)))) : R s t := by
    rcases hR.iterateEach hbody h with ⟨mid, hmid, hrest⟩
    exact hR.trans hpass (hR.trans (hbody 0 _ mid hmid) hrest)
  unfold Regex.repeated at h
  -- the steps are the same whether the number of times is bounded or not
  cases most with
  | none | some =>
    dsimp only at h
    split at h
    . next mid hmid =>
      apply hR.trans (hstart (hmid ▸ List.mem_singleton_self mid))
      split at h
      . contradiction
      . apply hR.runs (hchars _ rfl)
        split at h
        . exact List.mem_reverse.mp h
        . exact h
    . split at h
      . split at h
        . contradiction
        . have h := mem_of_mem_distinct h
          split at h
          . rcases List.mem_append.mp h with h | h
            . exact hagain h
            . rw [List.mem_singleton] at h
              rw [h]
              exact hpass
          . cases h with
            | head => exact hpass
            | tail _ h => exact hagain h
      . rcases hR.iterateEach hbody h with ⟨mid, hmid, hrest⟩
        exact hR.trans (hstart hmid) hrest

end Progress

end TextScopes.Regex
