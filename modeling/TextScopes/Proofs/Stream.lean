import TextScopes.Candidate

/-!
This module contains the order of the candidates in a text and where they come from: each of them is
a match of one pattern of a rule that is scanned.
-/

namespace TextScopes

namespace Candidate

theorem le_iff {a b : Candidate}
    : a.le b ↔ a.start < b.start ∨ (a.start = b.start ∧
        (b.length < a.length ∨ (a.length = b.length ∧ a.rank ≤ b.rank))) := by
  simp [le]

theorem le_of_stop_le {a b : Candidate} (hstart : a.start = b.start) (hstop : b.stop ≤ a.stop)
    (hrank : a.rank ≤ b.rank) : a.le b := by
  rw [le_iff]
  unfold length
  omega

theorem le_trans (a b c : Candidate) (hab : a.le b) (hbc : b.le c) : a.le c := by
  rw [le_iff] at *
  omega

theorem le_total (a b : Candidate) : a.le b || b.le a := by
  rw [Bool.or_eq_true, le_iff, le_iff]
  omega

theorem start_le_of_le {a b : Candidate} (h : a.le b) : a.start ≤ b.start := by
  rw [le_iff] at h
  omega

end Candidate

namespace Rule

variable {rule : Rule} {id : RuleId} {text : Text} {c : Candidate} {regex : Regex}

/-- The pattern of a rule whose matches become candidates of one phase. -/
def regex? (rule : Rule) (phase : Phase) : Option Regex :=
  match rule.kind, phase with
  | .matching regex _, .matching => some regex
  | .region region, .opening => some region.opening
  | .region region, .closing => some region.closing
  | _, _ => none

theorem mem_map_mk_iff {phase : Phase} {hits : List Regex.Hit}
    : c ∈ hits.map (⟨id, phase, ·⟩) ↔ c.rule = id ∧ c.phase = phase ∧ c.hit ∈ hits := by
  rw [List.mem_map]
  constructor
  . rintro ⟨hit, hhit, rfl⟩
    exact ⟨rfl, rfl, hhit⟩
  . rintro ⟨rfl, rfl, hhit⟩
    exact ⟨c.hit, hhit, rfl⟩

theorem mem_candidates_iff
    : c ∈ rule.candidates id text
        ↔ c.rule = id ∧ ∃ regex, rule.regex? c.phase = some regex ∧ c.hit ∈ regex.hits text := by
  unfold candidates regex?
  cases rule.kind with
  | matching regex captures =>
    dsimp only
    rw [mem_map_mk_iff]
    cases c.phase <;> simp
  | region region =>
    dsimp only
    rw [List.mem_append, mem_map_mk_iff, mem_map_mk_iff]
    cases c.phase <;> simp
  | container patterns => simp
  | reference target => simp

theorem exists_region_of_regex? (h : rule.regex? .opening = some regex)
    : ∃ region, rule.region? = some region ∧ region.opening = regex := by
  unfold regex? at h
  unfold region?
  split at h
  . contradiction
  . next region hkind _ =>
    cases h
    exact ⟨region, by rw [hkind], rfl⟩
  . contradiction
  . contradiction

theorem rule_of_mem_candidates (h : c ∈ rule.candidates id text) : c.rule = id :=
  (mem_candidates_iff.mp h).1

end Rule

namespace Grammar

variable {grammar : Grammar} {text : Text} {c : Candidate}

theorem mem_scan_iff
    : c ∈ grammar.scan text ↔ c.rule ∈ grammar.resolution.scanOrder
        ∧ ∃ rule, grammar.rule? c.rule = some rule ∧ c ∈ rule.candidates c.rule text := by
  unfold scan
  rw [List.mem_mergeSort, List.mem_flatMap]
  constructor
  . rintro ⟨id, hid, hc⟩
    cases hrule : grammar.rule? id with
    | none =>
      rw [hrule] at hc
      contradiction
    | some rule =>
      rw [hrule] at hc
      have hcandidates : c ∈ rule.candidates id text := hc
      have heq := Rule.rule_of_mem_candidates hcandidates
      subst heq
      exact ⟨hid, rule, hrule, hcandidates⟩
  . rintro ⟨hid, rule, hrule, hc⟩
    refine ⟨c.rule, hid, ?_⟩
    rw [hrule]
    exact hc

theorem pairwise_scan (grammar : Grammar) (text : Text)
    : (grammar.scan text).Pairwise fun a b => a.le b := by
  exact List.pairwise_mergeSort Candidate.le_trans Candidate.le_total _

/-- If no two candidates are equal in order, they can be put into order in one way only. -/
theorem scan_eq_of_perm {stream : List Candidate}
    (hperm : stream.Perm <| grammar.resolution.scanOrder.flatMap fun id =>
      ((grammar.rule? id).map (·.candidates id text)).getD [])
    (hstrict : stream.Pairwise fun a b => ¬ b.le a) : grammar.scan text = stream := by
  have hscan : (grammar.scan text).Perm stream := (List.mergeSort_perm _ _).trans hperm.symm
  have hsorted : stream.Pairwise fun a b => a.le b := by
    apply hstrict.imp
    intro a b hnot
    simpa [hnot] using Candidate.le_total a b
  apply hscan.eq_of_pairwise _ (pairwise_scan grammar text) hsorted
  intro a b ha hb hab hba
  rw [List.pairwise_iff_getElem] at hstrict
  rcases List.getElem_of_mem (hscan.mem_iff.mp ha) with ⟨i, hi, rfl⟩
  rcases List.getElem_of_mem hb with ⟨j, hj, rfl⟩
  rcases Nat.lt_trichotomy i j with hlt | rfl | hgt
  . exact absurd hba (hstrict i j hi hj hlt)
  . rfl
  . exact absurd hab (hstrict j i hj hi hgt)

end Grammar

end TextScopes
