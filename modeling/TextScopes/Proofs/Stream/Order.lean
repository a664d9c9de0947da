import Mathlib.Data.List.NodupEquivFin
import Mathlib.Data.Prod.Lex
import TextScopes.Proofs.Grammar.ScanOrder
import TextScopes.Proofs.Grammar.Sound
import TextScopes.Proofs.Tokenizer.Spans
import TextScopes.Proofs.Tokenizer.Stretch

/-!
This module contains that the candidates in a text are in strict order. No two of them agree in
place, length, what they do and the position of their rule, since a pattern has one match at a place
and a rule is scanned once. Of one pattern they are all matches, in the order of the text.
-/

namespace TextScopes

section Sublist

variable {α : Type} [DecidableEq α] {l : List α} {a b : α}

theorem idxOf_lt_of_sublist (hnodup : l.Nodup) (h : [a, b].Sublist l)
    : l.idxOf a < l.idxOf b := by
  have hpairwise : l.Pairwise fun a b => l.idxOf a < l.idxOf b := by
    rw [List.pairwise_iff_getElem]
    intro i j hi hj hij
    rw [hnodup.idxOf_getElem i hi, hnodup.idxOf_getElem j hj]
    exact hij
  exact List.pairwise_iff_forall_sublist.mp hpairwise h

theorem sublist_of_idxOf_lt (hnodup : l.Nodup) (ha : a ∈ l) (hb : b ∈ l)
    (hlt : l.idxOf a < l.idxOf b) : [a, b].Sublist l := by
  rcases List.append_of_mem ha with ⟨before, behind, hl⟩
  have hb' : b ∈ before ++ a :: behind := hl ▸ hb
  rcases List.mem_append.mp hb' with hbefore | hbehind
  . have hsublist : [b, a].Sublist l := by
      rw [hl]
      exact (List.singleton_sublist.mpr hbefore).append
        (List.singleton_sublist.mpr List.mem_cons_self)
    exact absurd (idxOf_lt_of_sublist hnodup hsublist) (Nat.lt_asymm hlt)
  . rcases List.mem_cons.mp hbehind with rfl | hbehind
    . exact absurd hlt (Nat.lt_irrefl _)
    . rw [hl]
      exact ((List.singleton_sublist.mpr hbehind).cons_cons a).trans (List.sublist_append_right _ _)

end Sublist

namespace Candidate

/-- What the order of candidates goes by, given the order of the rules: the place, the length, with
greater lengths first, whether a region is closed, and the position of the rule. -/
def key (order : List RuleId) (c : Candidate) : Nat ×ₗ Natᵒᵈ ×ₗ Nat ×ₗ Nat :=
  toLex (c.start, toLex (OrderDual.toDual c.length, toLex (c.rank, order.idxOf c.rule)))

variable {order : List RuleId} {a b : Candidate}

theorem key_lt_key_iff
    : a.key order < b.key order
      ↔ a.start < b.start ∨ (a.start = b.start ∧
        (b.length < a.length ∨ (a.length = b.length ∧
          (a.rank < b.rank ∨ (a.rank = b.rank ∧ order.idxOf a.rule < order.idxOf b.rule))))) := by
  unfold key
  simp only [Prod.Lex.toLex_lt_toLex, OrderDual.toDual_lt_toDual, EmbeddingLike.apply_eq_iff_eq]

end Candidate

theorem Rule.phase_eq_of_regex? {rule : Rule} {phase phase' : Phase} {regex regex' : Regex}
    (h : rule.regex? phase = some regex) (h' : rule.regex? phase' = some regex')
    (hclosing : phase = .closing ↔ phase' = .closing) : phase = phase' := by
  unfold regex? at h h'
  cases hkind : rule.kind with
  | matching regex captures =>
    rw [hkind] at h h'
    -- a rule that matches at once is no region
    cases phase <;> cases phase' <;> trivial
  | region region => cases phase <;> cases phase' <;> simp_all
  | container patterns => simp [hkind] at h
  | reference target => simp [hkind] at h

namespace Grammar

variable {grammar : Grammar} {text : Text} {a b c : Candidate} {id : RuleId} {phase : Phase}

/-- The pattern of a rule whose matches become candidates of one phase. -/
def regex? (grammar : Grammar) (id : RuleId) (phase : Phase) : Option Regex :=
  (grammar.rule? id).bind (·.regex? phase)

theorem mem_scan_iff_regex?
    : c ∈ grammar.scan text ↔ c.rule ∈ grammar.resolution.scanOrder
        ∧ ∃ regex, grammar.regex? c.rule c.phase = some regex ∧ c.hit ∈ regex.hits text := by
  unfold regex?
  simp only [mem_scan_iff, Rule.mem_candidates_iff, true_and, Option.bind_eq_some_iff]
  constructor
  . rintro ⟨hid, rule, hrule, regex, hregex, hhit⟩
    exact ⟨hid, regex, ⟨rule, hrule, hregex⟩, hhit⟩
  . rintro ⟨hid, regex, ⟨rule, hrule, hregex⟩, hhit⟩
    exact ⟨hid, rule, hrule, regex, hregex, hhit⟩

theorem phase_eq_of_rank_eq (ha : a ∈ grammar.scan text) (hb : b ∈ grammar.scan text)
    (hrule : a.rule = b.rule) (hrank : a.rank = b.rank) : a.phase = b.phase := by
  rcases mem_scan_iff_regex?.mp ha with ⟨-, regex, hregex, -⟩
  rcases mem_scan_iff_regex?.mp hb with ⟨-, regex', hregex', -⟩
  rcases Option.bind_eq_some_iff.mp hregex with ⟨rule, hget, hregex⟩
  rcases Option.bind_eq_some_iff.mp hregex' with ⟨rule', hget', hregex'⟩
  rw [← hrule] at hget'
  cases hget.symm.trans hget'
  apply Rule.phase_eq_of_regex? hregex hregex'
  unfold Candidate.rank at hrank
  by_cases hclosing : a.phase = .closing
  . simpa [hclosing] using hrank
  . simpa [hclosing] using hrank

theorem pairwise_key (hrules : grammar.resolution.scanOrder.Nodup) (text : Text)
    : (grammar.scan text).Pairwise fun a b =>
        a.key grammar.resolution.scanOrder < b.key grammar.resolution.scanOrder := by
  rw [List.pairwise_iff_forall_sublist]
  intro a b hab
  have ha : a ∈ grammar.scan text := hab.subset (by simp)
  have hb : b ∈ grammar.scan text := hab.subset (by simp)
  have hlt := idxOf_lt_of_sublist (nodup_scan hrules text) hab
  have hle := List.pairwise_iff_forall_sublist.mp (grammar.pairwise_scan text) hab
  by_contra hkey
  rw [Candidate.le_iff] at hle
  rw [Candidate.key_lt_key_iff] at hkey
  have hrank : b.rank = a.rank := by omega
  by_cases hrule : b.rule = a.rule
  . -- candidates of one pattern that begin at one place
    have heq := eq_of_mem_scan ha hb hrule (phase_eq_of_rank_eq hb ha hrule hrank) (by omega)
    rw [heq] at hlt
    exact Nat.lt_irrefl _ hlt
  . -- candidates of rules that stand the other way round
    have hidRule := (mem_scan_iff.mp ha).1
    have hidRule' := (mem_scan_iff.mp hb).1
    have hne : grammar.resolution.scanOrder.idxOf b.rule
        ≠ grammar.resolution.scanOrder.idxOf a.rule :=
      fun heq => hrule ((List.idxOf_inj hidRule').mp heq)
    have hreverse : [b, a].Sublist (grammar.scan text) := by
      apply sublist_scan _ hb ha
      . rw [Candidate.le_iff]
        omega
      . exact sublist_of_idxOf_lt hrules hidRule' hidRule (by omega)
    exact absurd (idxOf_lt_of_sublist (nodup_scan hrules text) hreverse) (Nat.lt_asymm hlt)

def isOf (id : RuleId) (phase : Phase) (c : Candidate) : Bool := c.rule = id && c.phase = phase

theorem isOf_iff : isOf id phase c ↔ c.rule = id ∧ c.phase = phase := by
  simp [isOf]

theorem mem_map_hit_iff (hid : id ∈ grammar.resolution.scanOrder) {hit : Regex.Hit}
    : hit ∈ ((grammar.scan text).filter (isOf id phase)).map (·.hit)
      ↔ hit ∈ (grammar.regex? id phase).elim [] (·.hits text) := by
  rw [List.mem_map]
  simp only [List.mem_filter, isOf_iff]
  constructor
  . rintro ⟨c, ⟨hc, rfl, rfl⟩, rfl⟩
    rcases mem_scan_iff_regex?.mp hc with ⟨-, regex, hregex, hhit⟩
    rw [hregex]
    exact hhit
  . intro hhit
    cases hregex : grammar.regex? id phase with
    | none =>
      rw [hregex] at hhit
      contradiction
    | some regex =>
      rw [hregex] at hhit
      exact ⟨⟨id, phase, hit⟩, ⟨mem_scan_iff_regex?.mpr ⟨hid, regex, hregex, hhit⟩, rfl, rfl⟩, rfl⟩

theorem pairwise_map_hit (hrules : grammar.resolution.scanOrder.Nodup) (id : RuleId)
    (phase : Phase) (text : Text)
    : (((grammar.scan text).filter (isOf id phase)).map (·.hit)).Pairwise
        fun a b => a.start < b.start := by
  rw [List.pairwise_map, List.pairwise_iff_forall_sublist]
  intro a b hab
  have ha : a ∈ (grammar.scan text).filter (isOf id phase) := hab.subset (by simp)
  have hb : b ∈ (grammar.scan text).filter (isOf id phase) := hab.subset (by simp)
  rw [List.mem_filter, isOf_iff] at ha hb
  rcases ha with ⟨ha, rfl, rfl⟩
  rcases hb with ⟨hb, hrule, hphase⟩
  have hkey := List.pairwise_iff_forall_sublist.mp (pairwise_key hrules text)
    (hab.trans List.filter_sublist)
  apply Nat.lt_of_le_of_ne
  . rcases Candidate.key_lt_key_iff.mp hkey with hlt | ⟨heq, -⟩
    . exact Nat.le_of_lt hlt
    . exact Nat.le_of_eq heq
  . intro hstart
    rw [eq_of_mem_scan ha hb hrule hphase hstart.symm] at hkey
    exact lt_irrefl _ hkey

/-- The candidates of one pattern are all its matches, from left to right. -/
theorem map_hit_filter_scan (hrules : grammar.resolution.scanOrder.Nodup)
    (hid : id ∈ grammar.resolution.scanOrder) (phase : Phase) (text : Text)
    : ((grammar.scan text).filter (isOf id phase)).map (·.hit)
      = (grammar.regex? id phase).elim [] (·.hits text) := by
  have hhits : ((grammar.regex? id phase).elim [] (·.hits text)).Pairwise
      fun a b => a.start < b.start := by
    cases grammar.regex? id phase with
    | none => exact List.Pairwise.nil
    | some regex => exact (regex.pairwise_hits text).imp And.right
  have hnodup {hits : List Regex.Hit} (h : hits.Pairwise fun a b => a.start < b.start)
      : hits.Nodup := by
    apply h.imp
    rintro a b hlt rfl
    exact Nat.lt_irrefl _ hlt
  have hpairwise := pairwise_map_hit hrules id phase text
  have hperm : (((grammar.scan text).filter (isOf id phase)).map (·.hit)).Perm
      ((grammar.regex? id phase).elim [] (·.hits text)) :=
    (List.perm_ext_iff_of_nodup (hnodup hpairwise) (hnodup hhits)).mpr
      fun hit => mem_map_hit_iff hid
  exact hperm.eq_of_pairwise (fun a b _ _ hlt hgt => absurd hgt (Nat.lt_asymm hlt)) hpairwise hhits

theorem exists_regex?_of_isMatcher (h : grammar.arena.IsMatcher id)
    : ∃ phase regex, grammar.regex? id phase = some regex := by
  rcases h with ⟨rule, hrule, hstandIns⟩
  have hget : grammar.rule? id = some rule := hrule
  simp only [regex?, hget, Option.bind_some, Rule.regex?]
  unfold Arena.standIns at hstandIns
  split at hstandIns
  . next regex captures hkind => exact ⟨.matching, regex, by rw [hkind]⟩
  . next region hkind => exact ⟨.opening, region.opening, by rw [hkind]⟩
  . cases hstandIns
  . cases hstandIns
  . split at hstandIns
    . cases hstandIns
    . cases hstandIns

/-- The candidates in a text are the matches of the patterns of the rules that are scanned: of each
pattern all of them, in the order of the text, and nothing else. They stand in strict order, so that
no two of them are equal in place, length, in whether they close a region and in the position of
their rule. -/
theorem scan_orders_all_hits {source : GrammarSource} (h : source.build = .ok grammar) (text : Text)
    : (∀ c ∈ grammar.scan text, c.rule ∈ grammar.resolution.scanOrder
          ∧ ∃ regex, grammar.regex? c.rule c.phase = some regex)
      ∧ (∀ id ∈ grammar.resolution.scanOrder, ∀ phase,
          ((grammar.scan text).filter (isOf id phase)).map (·.hit)
            = (grammar.regex? id phase).elim [] (·.hits text))
      ∧ (∀ id ∈ grammar.resolution.scanOrder, ∃ phase regex, grammar.regex? id phase = some regex)
      ∧ (grammar.scan text).Pairwise fun a b =>
          a.key grammar.resolution.scanOrder < b.key grammar.resolution.scanOrder := by
  rcases Arena.exists_search_of_resolve (source.exists_of_build_eq_ok h).2 with ⟨-, hsearch⟩
  have hrules := hsearch.nodup
  rw [List.append_nil] at hrules
  refine ⟨?_, ?_, ?_, pairwise_key hrules text⟩
  . intro c hc
    rcases mem_scan_iff_regex?.mp hc with ⟨hid, regex, hregex, -⟩
    exact ⟨hid, regex, hregex⟩
  . exact fun id hid phase => map_hit_filter_scan hrules hid phase text
  . intro id hid
    exact exists_regex?_of_isMatcher (hsearch.matcher id (by simpa using hid))

/-- The candidates in nested lists, where one rule has two patterns and the other one has one. -/
theorem scan_orders_all_hits_lists
    : ∃ grammar, listSource.build = .ok grammar
      ∧ (grammar.scan "[[x]]".toList).Pairwise fun a b =>
          a.key grammar.resolution.scanOrder < b.key grammar.resolution.scanOrder := by
  rcases exists_build_listSource with ⟨grammar, h⟩
  exact ⟨grammar, h, (scan_orders_all_hits h _).2.2.2⟩

end Grammar

end TextScopes
