/-!
This module contains how stable sorting and selecting go together: what is selected from a sorted
list is what was selected before, sorted, and a sorted list falls into what comes first and what
comes behind it.
-/

namespace TextScopes

variable {α : Type} {le : α → α → Bool}

theorem eq_of_append_eq_append {p : α → Bool} {a a' b b' : List α} (ha : ∀ x ∈ a, p x)
    (ha' : ∀ x ∈ a', p x) (hb : ∀ x ∈ b, ¬ p x) (hb' : ∀ x ∈ b', ¬ p x) (h : a ++ b = a' ++ b')
    : a = a' ∧ b = b' := by
  have heq : a = a' := by
    have hfilter : (a ++ b).filter p = (a' ++ b').filter p := by rw [h]
    rw [List.filter_append, List.filter_append, List.filter_eq_self.mpr ha,
      List.filter_eq_self.mpr ha', List.filter_eq_nil_iff.mpr hb, List.filter_eq_nil_iff.mpr hb',
      List.append_nil, List.append_nil] at hfilter
    exact hfilter
  subst heq
  exact ⟨rfl, List.append_cancel_left h⟩

theorem eq_filter_append_filter {p : α → Bool} {l : List α} (hl : l.Pairwise fun a b => le a b)
    (hp : ∀ a b, le a b → p b → p a) : l = l.filter p ++ l.filter fun a => !p a := by
  induction l with
  | nil => rfl
  | cons a rest ih =>
    rw [List.pairwise_cons] at hl
    cases ha : p a with
    | true => simpa [ha] using ih hl.2
    | false =>
      have hrest : ∀ b ∈ rest, p b = false := by
        intro b hb
        cases hpb : p b with
        | false => rfl
        | true =>
          rw [hp a b (hl.1 b hb) hpb] at ha
          contradiction
      have hnil : rest.filter p = [] := by simpa using hrest
      have hself : (rest.filter fun a => !p a) = rest := by simpa using hrest
      simp [ha, hnil, hself]

section Sorting

variable (htrans : ∀ a b c, le a b → le b c → le a c) (htotal : ∀ a b, le a b || le b a)
include htrans htotal

theorem le_of_mergeSort_cons {a : α} {before behind rest : List α}
    (h : (a :: rest).mergeSort le = before ++ a :: behind) : ∀ b ∈ behind, le a b := by
  have hpairwise := List.pairwise_mergeSort htrans htotal (a :: rest)
  rw [h, List.pairwise_append, List.pairwise_cons] at hpairwise
  exact hpairwise.2.1.1

theorem filter_mergeSort (p : α → Bool) (l : List α)
    : (l.mergeSort le).filter p = (l.filter p).mergeSort le := by
  induction l with
  | nil => simp
  | cons a rest ih =>
    rcases List.mergeSort_cons htrans htotal a rest with ⟨before, behind, hsort, hrest, hbefore⟩
    rw [hrest, List.filter_append] at ih
    cases ha : p a with
    | false => simp [hsort, ha, ih]
    | true =>
      rcases List.mergeSort_cons htrans htotal a (rest.filter p)
        with ⟨before', behind', hsort', hrest', hbefore'⟩
      have hbehind := le_of_mergeSort_cons htrans htotal hsort
      have hbehind' := le_of_mergeSort_cons htrans htotal hsort'
      rw [hrest'] at ih
      rcases eq_of_append_eq_append (p := fun b => !le a b)
        (fun b hb => hbefore b (List.mem_filter.mp hb).1) hbefore'
        (fun b hb => by simp [hbehind b (List.mem_filter.mp hb).1])
        (fun b hb => by simp [hbehind' b hb]) ih with ⟨hfirst, hlast⟩
      simp [hsort, ha, hsort', hfirst, hlast]

theorem mergeSort_eq_append (p : α → Bool) (l : List α) (hp : ∀ a b, le a b → p b → p a)
    : l.mergeSort le = (l.filter p).mergeSort le ++ (l.filter fun a => !p a).mergeSort le := by
  rw [← filter_mergeSort htrans htotal, ← filter_mergeSort htrans htotal]
  exact eq_filter_append_filter (List.pairwise_mergeSort htrans htotal l) hp

theorem mergeSort_append {p : α → Bool} {l l' : List α} (hp : ∀ a b, le a b → p b → p a)
    (hl : ∀ a ∈ l, p a) (hl' : ∀ a ∈ l', p a = false)
    : (l ++ l').mergeSort le = l.mergeSort le ++ l'.mergeSort le := by
  have hself : l.filter p = l := List.filter_eq_self.mpr hl
  have hnil : l'.filter p = [] := by simpa using hl'
  have hnil' : (l.filter fun a => !p a) = [] := by simpa using hl
  have hself' : (l'.filter fun a => !p a) = l' := by simpa using hl'
  rw [mergeSort_eq_append htrans htotal p _ hp, List.filter_append, List.filter_append, hself, hnil,
    hnil', hself', List.append_nil, List.nil_append]

end Sorting

end TextScopes
