import Mathlib.Data.List.Flatten
import Mathlib.Data.List.Nodup
import Mathlib.Data.List.Pairwise
import TextScopes.Proofs.Regex.Search
import TextScopes.Proofs.Sort
import TextScopes.Proofs.Stream
import TextScopes.Proofs.Tokenizer.Step

/-!
This module contains what the pass over the candidates does in a stretch of a text. What happens in
neighbouring stretches comes one after the other, so that a text can be followed piece by piece.
-/

namespace TextScopes

theorem Rule.nodup_candidates (rule : Rule) (id : RuleId) (text : Text)
    : (rule.candidates id text).Nodup := by
  have hmap (re : Regex) (phase : Phase)
      : ((re.hits text).map (Candidate.mk id phase)).Nodup := by
    have hhits : (re.hits text).Nodup := by
      apply (re.pairwise_hits text).imp
      rintro a b ⟨-, hlt⟩ rfl
      exact Nat.lt_irrefl _ hlt
    exact hhits.map fun a b hab => (Candidate.mk.inj hab).2.2
  unfold candidates
  split
  . exact hmap _ _
  . rw [List.nodup_append]
    refine ⟨hmap _ _, hmap _ _, ?_⟩
    intro a ha b hb hab
    rcases List.mem_map.mp ha with ⟨hit, -, rfl⟩
    rcases List.mem_map.mp hb with ⟨hit', -, rfl⟩
    cases hab
  . exact List.nodup_nil

theorem not_mem_of_sublist {α : Type} {c d : α} {before behind : List α}
    (h : [c, d].Sublist (before ++ c :: behind)) (hnodup : (before ++ c :: behind).Nodup)
    : d ∉ before := by
  intro hd
  rw [List.nodup_append, List.nodup_cons] at hnodup
  rcases List.sublist_append_iff.mp h with ⟨first, second, heq, hfirst, hsecond⟩
  cases first with
  | nil =>
    rw [List.nil_append] at heq
    subst heq
    have hmem : d ∈ c :: behind := hsecond.subset (by simp)
    exact hnodup.2.2 d hd d hmem rfl
  | cons a first =>
    rw [List.cons_append, List.cons.injEq] at heq
    rcases heq with ⟨rfl, -⟩
    have hmem : c ∈ before := hfirst.subset List.mem_cons_self
    exact hnodup.2.2 c hmem c List.mem_cons_self rfl

namespace Grammar

theorem mem_scan {grammar : Grammar} {text : Text} {id : RuleId} {phase : Phase} {rule : Rule}
    {regex : Regex} {hit : Regex.Hit} (hid : id ∈ grammar.resolution.scanOrder)
    (hrule : grammar.rule? id = some rule) (hregex : rule.regex? phase = some regex)
    (hhit : hit ∈ regex.hits text) : ⟨id, phase, hit⟩ ∈ grammar.scan text :=
  mem_scan_iff.mpr
    ⟨hid, rule, hrule, Rule.mem_candidates_iff.mpr ⟨rfl, regex, hregex, hhit⟩⟩

theorem exists_word_of_mem_scan {grammar : Grammar} {text : Text} {c : Candidate} {rule : Rule}
    {regex : Regex} (hc : c ∈ grammar.scan text) (hrule : grammar.rule? c.rule = some rule)
    (hregex : rule.regex? c.phase = some regex)
    : ∃ before w after, before ++ (w ++ after) = text ∧ regex.expr.Spells w
        ∧ c.start = before.size ∧ c.stop = before.size + w.size := by
  rcases mem_scan_iff.mp hc with ⟨-, rule', hrule', hc⟩
  cases hrule.symm.trans hrule'
  rcases (Rule.mem_candidates_iff.mp hc).2 with ⟨regex', hregex', hhit⟩
  cases hregex.symm.trans hregex'
  exact Regex.exists_word_of_mem_hits hhit

theorem eq_of_mem_scan {grammar : Grammar} {text : Text} {c d : Candidate}
    (hc : c ∈ grammar.scan text) (hd : d ∈ grammar.scan text) (hrule : d.rule = c.rule)
    (hphase : d.phase = c.phase) (hstart : d.start = c.start) : d = c := by
  rcases c with ⟨id, phase, hit⟩
  rcases d with ⟨id', phase', hit'⟩
  cases hrule
  cases hphase
  rcases mem_scan_iff.mp hc with ⟨-, rule, hrule, hc⟩
  rcases mem_scan_iff.mp hd with ⟨-, rule', hrule', hd⟩
  cases hrule.symm.trans hrule'
  rcases Rule.mem_candidates_iff.mp hc with ⟨-, regex, hregex, hhit⟩
  rcases Rule.mem_candidates_iff.mp hd with ⟨-, regex', hregex', hhit'⟩
  cases hregex.symm.trans hregex'
  dsimp only at hhit hhit'
  change hit'.start = hit.start at hstart
  rcases Regex.separated_of_mem_hits hhit hhit' with heq | hbefore | hbehind
  . rw [heq]
  . omega
  . omega

theorem nodup_scan {grammar : Grammar} (hrules : grammar.resolution.scanOrder.Nodup) (text : Text)
    : (grammar.scan text).Nodup := by
  unfold scan
  rw [(List.mergeSort_perm _ _).nodup_iff, List.nodup_flatMap]
  have hrule {id : RuleId} {c : Candidate}
      (hc : c ∈ ((grammar.rule? id).map (·.candidates id text)).getD []) : c.rule = id := by
    cases hrule : grammar.rule? id with
    | none =>
      rw [hrule] at hc
      contradiction
    | some rule =>
      rw [hrule] at hc
      exact Rule.rule_of_mem_candidates hc
  refine ⟨?_, ?_⟩
  . intro id _
    cases grammar.rule? id with
    | none => exact List.nodup_nil
    | some rule => exact rule.nodup_candidates id text
  . apply hrules.imp
    intro a b hab c hca hcb
    exact hab ((hrule hca).symm.trans (hrule hcb))

theorem sublist_scan {grammar : Grammar} {text : Text} {c d : Candidate}
    (hrules : [c.rule, d.rule].Sublist grammar.resolution.scanOrder) (hc : c ∈ grammar.scan text)
    (hd : d ∈ grammar.scan text) (hle : c.le d) : [c, d].Sublist (grammar.scan text) := by
  have hmem {c : Candidate} (hc : c ∈ grammar.scan text)
      : [c].Sublist (((grammar.rule? c.rule).map (·.candidates c.rule text)).getD []) := by
    rcases mem_scan_iff.mp hc with ⟨-, rule, hrule, hc⟩
    rw [hrule]
    exact List.singleton_sublist.mpr hc
  apply List.pair_sublist_mergeSort Candidate.le_trans Candidate.le_total hle
  apply List.Sublist.trans _ (hrules.flatMap _)
  simp only [List.flatMap_cons, List.flatMap_nil, List.append_nil]
  exact (hmem hc).append (hmem hd)

theorem sublist_scan_of_not_le {grammar : Grammar} {text : Text} {c d : Candidate}
    (hc : c ∈ grammar.scan text) (hd : d ∈ grammar.scan text) (hne : c ≠ d) (hle : ¬ d.le c)
    : [c, d].Sublist (grammar.scan text) := by
  rcases List.append_of_mem hd with ⟨before, behind, hscan⟩
  have hpairwise := grammar.pairwise_scan text
  rw [hscan, List.pairwise_append, List.pairwise_cons] at hpairwise
  rw [hscan] at hc ⊢
  rcases List.mem_append.mp hc with hc | hc
  . exact (List.singleton_sublist.mpr hc).append (List.singleton_sublist.mpr List.mem_cons_self)
  . rcases List.mem_cons.mp hc with rfl | hc
    . contradiction
    . exact absurd (hpairwise.2.1.1 c hc) hle

/-- The candidates that start in a stretch of a text. -/
def scanIn (grammar : Grammar) (text : Text) (start stop : Nat) : List Candidate :=
  (grammar.scan text).filter fun c => start ≤ c.start && c.start < stop

theorem mem_scanIn_iff {grammar : Grammar} {text : Text} {start stop : Nat} {c : Candidate}
    : c ∈ grammar.scanIn text start stop ↔ c ∈ grammar.scan text ∧ start ≤ c.start ∧ c.start < stop
    := by
  simp [scanIn]

theorem scanIn_append (grammar : Grammar) (text : Text) {start mid stop : Nat} (hmid : start ≤ mid)
    (hstop : mid ≤ stop)
    : grammar.scanIn text start stop
      = grammar.scanIn text start mid ++ grammar.scanIn text mid stop := by
  have hsorted := (grammar.pairwise_scan text).filter fun c => start ≤ c.start && c.start < stop
  have hdown (a b : Candidate) (hle : a.le b) (hb : decide (b.start < mid)) : decide (a.start < mid)
      := by
    have := Candidate.start_le_of_le hle
    rw [decide_eq_true_eq] at *
    omega
  unfold scanIn
  rw [eq_filter_append_filter hsorted hdown, List.filter_filter, List.filter_filter]
  congr 1
  . apply List.filter_congr
    intro c _
    rw [Bool.eq_iff_iff]
    simp
    omega
  . apply List.filter_congr
    intro c _
    rw [Bool.eq_iff_iff]
    simp
    omega

/-- Whether a candidate is skipped where the given regions are open, wherever the text consumed so
far ends. -/
def Skips (grammar : Grammar) (frames : List Frame) (c : Candidate) : Prop :=
  ¬ Closes frames c
    ∧ (c.phase = .closing ∨ ¬ (grammar.activeIn frames).any (·.contains c.rule))

/-- What the pass does in a stretch: from regions that are open in front of it to regions that are
open behind it, with the spans that it completes. -/
def Moves (grammar : Grammar) (text : Text) (start stop : Nat) (frames frames' : List Frame)
    (spans : List Span) : Prop :=
  ∀ cursor ≤ start, ∀ done, ∃ cursor' ≤ stop, ∃ done',
    (grammar.scanIn text start stop).foldl (grammar.step text.size) ⟨cursor, frames, done⟩
      = ⟨cursor', frames', done'⟩
    ∧ done'.flatten.Perm (spans ++ done.flatten)

variable {grammar : Grammar} {text : Text} {start mid stop : Nat}
  {frames frames' frames'' : List Frame} {spans spans' : List Span} {c : Candidate}

theorem step_of_skips (h : grammar.Skips frames c) (textSize cursor : Nat) (done : List (List Span))
    : grammar.step textSize ⟨cursor, frames, done⟩ c = ⟨cursor, frames, done⟩ := by
  by_cases hlt : c.start < cursor
  . exact step_of_lt hlt
  . rcases h.2 with hphase | hactive
    . exact step_of_stray (Nat.not_lt.mp hlt) h.1 hphase
    . exact step_of_inactive (Nat.not_lt.mp hlt) h.1 hactive

theorem foldl_of_skips {stream : List Candidate} (h : ∀ c ∈ stream, grammar.Skips frames c)
    (textSize cursor : Nat) (done : List (List Span))
    : stream.foldl (grammar.step textSize) ⟨cursor, frames, done⟩ = ⟨cursor, frames, done⟩ := by
  induction stream with
  | nil => rfl
  | cons c stream ih =>
    rw [List.foldl_cons, step_of_skips (h c List.mem_cons_self)]
    exact ih fun c hc => h c (List.mem_cons_of_mem _ hc)

theorem foldl_of_lt {stream : List Candidate} {cursor : Nat} (h : ∀ c ∈ stream, c.start < cursor)
    (textSize : Nat) (done : List (List Span))
    : stream.foldl (grammar.step textSize) ⟨cursor, frames, done⟩ = ⟨cursor, frames, done⟩ := by
  induction stream with
  | nil => rfl
  | cons c stream ih =>
    rw [List.foldl_cons, step_of_lt (h c List.mem_cons_self)]
    exact ih fun c hc => h c (List.mem_cons_of_mem _ hc)

namespace Moves

theorem refl (grammar : Grammar) (text : Text) (start : Nat) (frames : List Frame)
    : grammar.Moves text start start frames frames [] := by
  intro cursor hcursor done
  have hnil : grammar.scanIn text start start = [] := by
    rw [List.eq_nil_iff_forall_not_mem]
    intro c hc
    have := (mem_scanIn_iff.mp hc).2
    omega
  rw [hnil]
  exact ⟨cursor, hcursor, done, rfl, List.Perm.refl _⟩

theorem trans (h : grammar.Moves text start mid frames frames' spans)
    (h' : grammar.Moves text mid stop frames' frames'' spans') (hmid : start ≤ mid)
    (hstop : mid ≤ stop) : grammar.Moves text start stop frames frames'' (spans ++ spans') := by
  intro cursor hcursor done
  rcases h cursor hcursor done with ⟨cursor', hcursor', done', hfold, hperm⟩
  rcases h' cursor' hcursor' done' with ⟨cursor'', hcursor'', done'', hfold', hperm'⟩
  refine ⟨cursor'', hcursor'', done'', ?_, ?_⟩
  . rw [scanIn_append grammar text hmid hstop, List.foldl_append, hfold, hfold']
  . calc
      done''.flatten.Perm (spans' ++ done'.flatten) := hperm'
      _ |>.Perm (spans' ++ (spans ++ done.flatten)) := hperm.append_left spans'
      _ |>.Perm (spans ++ spans' ++ done.flatten) := by
        rw [← List.append_assoc]
        exact List.perm_append_comm.append_right _

theorem perm (h : grammar.Moves text start stop frames frames' spans) (hperm : spans.Perm spans')
    : grammar.Moves text start stop frames frames' spans' := by
  intro cursor hcursor done
  rcases h cursor hcursor done with ⟨cursor', hcursor', done', hfold, hdone⟩
  exact ⟨cursor', hcursor', done', hfold, hdone.trans (hperm.append_right _)⟩

theorem of_skips (hle : start ≤ stop)
    (h : ∀ c ∈ grammar.scan text, start ≤ c.start → c.start < stop → grammar.Skips frames c)
    : grammar.Moves text start stop frames frames [] := by
  intro cursor hcursor done
  refine ⟨cursor, Nat.le_trans hcursor hle, done, foldl_of_skips ?_ _ _ _, List.Perm.refl _⟩
  intro c hc
  rcases mem_scanIn_iff.mp hc with ⟨hscan, hstart, hstop⟩
  exact h c hscan hstart hstop

theorem of_step (hrules : grammar.resolution.scanOrder.Nodup) (hc : c ∈ grammar.scan text)
    (hlt : c.start < c.stop)
    (hfirst : ∀ d ∈ grammar.scan text, d.start = c.start →
      d = c ∨ grammar.Skips frames d ∨ [c, d].Sublist (grammar.scan text))
    (hstep : ∀ cursor ≤ c.start, ∀ done, ∃ done',
      grammar.step text.size ⟨cursor, frames, done⟩ c = ⟨c.stop, frames', done'⟩
      ∧ done'.flatten.Perm (spans ++ done.flatten))
    : grammar.Moves text c.start c.stop frames frames' spans := by
  intro cursor hcursor done
  have hmem := mem_scanIn_iff.mpr ⟨hc, Nat.le_refl c.start, hlt⟩
  rcases List.eq_append_cons_of_mem hmem with ⟨before, behind, hstream, hbefore⟩
  rcases hstep cursor hcursor done with ⟨done', hdone', hperm⟩
  have hsorted : (before ++ c :: behind).Pairwise fun a b => a.le b := by
    rw [← hstream]
    exact (grammar.pairwise_scan text).filter _
  have hskips : ∀ d ∈ before, grammar.Skips frames d := by
    intro d hd
    have hdstream : d ∈ grammar.scanIn text c.start c.stop := by
      rw [hstream]
      exact List.mem_append_left _ hd
    rcases mem_scanIn_iff.mp hdstream with ⟨hdscan, hdstart, -⟩
    have hle : d.le c := (List.pairwise_append.mp hsorted).2.2 d hd c List.mem_cons_self
    have hdstart' := Candidate.start_le_of_le hle
    rcases hfirst d hdscan (by omega) with rfl | hskips | hsublist
    . contradiction
    . exact hskips
    . -- what stands behind the candidate does not stand in front of it as well
      exfalso
      have hboth : [c, d].Sublist (before ++ c :: behind) := by
        have hfilter := hsublist.filter fun x => c.start ≤ x.start && x.start < c.stop
        rw [List.filter_eq_self.mpr (by simp; omega)] at hfilter
        rw [← hstream]
        exact hfilter
      have hnodup : (before ++ c :: behind).Nodup := by
        rw [← hstream]
        exact (nodup_scan hrules text).filter _
      exact not_mem_of_sublist hboth hnodup hd
  have hbehind : ∀ d ∈ behind, d.start < c.stop := by
    intro d hd
    have hdstream : d ∈ grammar.scanIn text c.start c.stop := by
      rw [hstream]
      exact List.mem_append_right _ (List.mem_cons_of_mem c hd)
    exact (mem_scanIn_iff.mp hdstream).2.2
  refine ⟨c.stop, Nat.le_refl _, done', ?_, hperm⟩
  rw [hstream, List.foldl_append, foldl_of_skips hskips, List.foldl_cons, hdone',
    foldl_of_lt hbehind]

section Steps

variable (hrules : grammar.resolution.scanOrder.Nodup) (hc : c ∈ grammar.scan text)
  (hlt : c.start < c.stop)
  (hfirst : ∀ d ∈ grammar.scan text, d.start = c.start →
    d = c ∨ grammar.Skips frames d ∨ [c, d].Sublist (grammar.scan text))
include hrules hc hlt hfirst

theorem of_token (hphase : c.phase = .matching)
    (hactive : (grammar.activeIn frames).any (·.contains c.rule))
    : grammar.Moves text c.start c.stop frames frames
        (grammar.tokenSpans (grammar.scopesIn frames) c) := by
  apply of_step hrules hc hlt hfirst
  intro cursor hcursor done
  exact ⟨_, step_of_matching hcursor hactive hphase, List.Perm.refl _⟩

theorem of_opening (hphase : c.phase = .opening)
    (hactive : (grammar.activeIn frames).any (·.contains c.rule)) {frame : Frame}
    (hframe : grammar.openFrame? (grammar.scopesIn frames) c = some frame)
    : grammar.Moves text c.start c.stop frames (frame :: frames) [] := by
  apply of_step hrules hc hlt hfirst
  intro cursor hcursor done
  refine ⟨done, ?_, List.Perm.refl _⟩
  rw [step_of_opening hcursor hactive hphase, hframe]

end Steps

theorem of_closing {frame : Frame} (hrules : grammar.resolution.scanOrder.Nodup)
    (hc : c ∈ grammar.scan text) (hlt : c.start < c.stop)
    (hfirst : ∀ d ∈ grammar.scan text, d.start = c.start →
      d = c ∨ grammar.Skips (frame :: frames) d ∨ [c, d].Sublist (grammar.scan text))
    (hcloses : Closes (frame :: frames) c)
    : grammar.Moves text c.start c.stop (frame :: frames) frames
        (frame.spans text.size (some c)) := by
  apply of_step hrules hc hlt hfirst
  intro cursor hcursor done
  exact ⟨_, step_of_closes hcursor hcloses, List.Perm.refl _⟩

theorem perm_tokenize (h : grammar.Moves text 0 text.size [] frames spans)
    (hlt : ∀ c ∈ grammar.scan text, c.start < text.size)
    : (grammar.tokenize text).Perm
        (spans ++ (frames.map fun frame => frame.spans text.size none).flatten) := by
  rcases h 0 (Nat.le_refl 0) [] with ⟨cursor, -, done, hfold, hperm⟩
  have hscan : grammar.scanIn text 0 text.size = grammar.scan text := by
    unfold scanIn
    rw [List.filter_eq_self]
    intro c hc
    simpa using hlt c hc
  rw [hscan] at hfold
  rw [List.flatten_nil, List.append_nil] at hperm
  have hpass : grammar.passSpans text.size (grammar.scan text)
      = done.reverse.flatten ++ (frames.map fun frame => frame.spans text.size none).flatten := by
    unfold passSpans
    rw [hfold, List.flatten_append]
  calc
    (grammar.tokenize text).Perm (grammar.passSpans text.size (grammar.scan text)) :=
      List.mergeSort_perm _ _
    _ |>.Perm (done.reverse.flatten
        ++ (frames.map fun frame => frame.spans text.size none).flatten) := hpass ▸ List.Perm.refl _
    _ |>.Perm (done.flatten ++ (frames.map fun frame => frame.spans text.size none).flatten) :=
      (List.reverse_perm done).flatten.append_right _
    _ |>.Perm (spans ++ (frames.map fun frame => frame.spans text.size none).flatten) :=
      hperm.append_right _

end Moves

end Grammar

end TextScopes
