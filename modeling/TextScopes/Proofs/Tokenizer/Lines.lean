import TextScopes.Proofs.Sort
import TextScopes.Proofs.Tokenizer.Shift
import TextScopes.Proofs.Tokenizer.Spans

/-!
This module contains grammars of lines: their patterns stay in their line, their regions do not nest
and end with their line at the latest. The spans of a text of several lines are those of its lines.
-/

namespace TextScopes

def Rule.StaysInLine (rule : Rule) : Prop :=
  match rule.kind with
  | .matching regex _ => regex.expr.staysInLine
  | .region region => region.opening.expr.staysInLine ∧ region.closing.expr.staysInLine
  | _ => True

structure Grammar.IsOfLines (grammar : Grammar) : Prop where
  staysInLine : ∀ rule ∈ grammar.arena.rules, rule.StaysInLine
  /-- No region can begin inside another one. -/
  flat : ∀ id set, grammar.resolution.region? id = some set → ∀ inner ∈ set.rules,
    (grammar.rule? inner).bind Rule.region? = none
  /-- What opens a region is not empty. -/
  opens : ∀ id region, (grammar.rule? id).bind Rule.region? = some region →
    ∀ cursor hit, region.opening.matchAt? cursor = some hit → hit.start < hit.stop
  /-- The end of a text closes a region. -/
  closes : ∀ id region, (grammar.rule? id).bind Rule.region? = some region →
    ∀ cursor, cursor.rest = [] → ∃ hit, region.closing.matchAt? cursor = some hit

theorem filter_map_hits {re : Regex} (hgroups : re.expr.GroupsFrom 1)
    (hline : re.expr.staysInLine) (id : RuleId) (phase : Phase) (a b : Text)
    : ((re.hits (a ++ '\n' :: b)).map (Candidate.mk id phase)).filter
          (fun c => decide (c.start < a.size + 1))
        = (re.hits a).map (Candidate.mk id phase)
      ∧ ((re.hits (a ++ '\n' :: b)).map (Candidate.mk id phase)).filter
          (fun c => !decide (c.start < a.size + 1))
        = ((re.hits b).map (Candidate.mk id phase)).map (Candidate.shift (a.size + 1)) := by
  have hbefore : ∀ c ∈ (re.hits a).map (Candidate.mk id phase), c.start < a.size + 1 := by
    intro c hc
    rcases List.mem_map.mp hc with ⟨hit, hhit, rfl⟩
    have hsound := Regex.isSound_of_mem_hits hgroups hhit
    exact Nat.lt_succ_of_le (Nat.le_trans hsound.le hsound.isBoundary_stop.le_size)
  have hbehind : ∀ c ∈ ((re.hits b).map (Candidate.mk id phase)).map
      (Candidate.shift (a.size + 1)), a.size + 1 ≤ c.start := by
    intro c hc
    rcases List.mem_map.mp hc with ⟨c, -, rfl⟩
    exact Nat.le_add_left _ c.start
  have hmap : ((re.hits b).map (Regex.Hit.shift (a.size + 1))).map (Candidate.mk id phase)
      = ((re.hits b).map (Candidate.mk id phase)).map (Candidate.shift (a.size + 1)) := by
    rw [List.map_map, List.map_map]
    rfl
  rw [Regex.hits_append_line hgroups hline, List.map_append, hmap, List.filter_append,
    List.filter_append]
  refine ⟨?_, ?_⟩
  . rw [List.filter_eq_self.mpr (by simpa using hbefore),
      List.filter_eq_nil_iff.mpr fun c hc => by simpa using hbehind c hc, List.append_nil]
  . rw [List.filter_eq_nil_iff.mpr (by simpa using hbefore),
      List.filter_eq_self.mpr fun c hc => by simpa using hbehind c hc, List.nil_append]

theorem Rule.filter_candidates_append_line {rule : Rule} (hrule : rule.IsSound)
    (hline : rule.StaysInLine) (id : RuleId) (a b : Text)
    : (rule.candidates id (a ++ '\n' :: b)).filter (fun c => decide (c.start < a.size + 1))
        = rule.candidates id a
      ∧ (rule.candidates id (a ++ '\n' :: b)).filter (fun c => !decide (c.start < a.size + 1))
        = (rule.candidates id b).map (Candidate.shift (a.size + 1)) := by
  unfold IsSound at hrule
  unfold StaysInLine at hline
  unfold candidates
  split
  . next regex captures hkind =>
    simp only [hkind] at hrule hline
    exact filter_map_hits hrule hline id .matching a b
  . next region hkind =>
    simp only [hkind] at hrule hline
    have hopening := filter_map_hits hrule.1 hline.1 id .opening a b
    have hclosing := filter_map_hits hrule.2 hline.2 id .closing a b
    rw [List.filter_append, List.filter_append, hopening.1, hclosing.1, hopening.2, hclosing.2,
      List.map_append]
    exact ⟨rfl, rfl⟩
  . exact ⟨rfl, rfl⟩

namespace Grammar

variable {grammar : Grammar}

theorem scan_append_line (hgrammar : grammar.IsSound) (hlines : grammar.IsOfLines) (a b : Text)
    : grammar.scan (a ++ '\n' :: b)
      = grammar.scan a ++ (grammar.scan b).map (Candidate.shift (a.size + 1)) := by
  have hcandidates (id : RuleId) :
      (((grammar.rule? id).map (·.candidates id (a ++ '\n' :: b))).getD []).filter
          (fun c => decide (c.start < a.size + 1))
        = ((grammar.rule? id).map (·.candidates id a)).getD []
      ∧ (((grammar.rule? id).map (·.candidates id (a ++ '\n' :: b))).getD []).filter
          (fun c => !decide (c.start < a.size + 1))
        = (((grammar.rule? id).map (·.candidates id b)).getD []).map
            (Candidate.shift (a.size + 1)) := by
    cases hrule : grammar.rule? id with
    | none => exact ⟨rfl, rfl⟩
    | some rule =>
      have hline := hlines.staysInLine rule (List.mem_of_getElem? hrule)
      exact rule.filter_candidates_append_line (hgrammar.rule hrule) hline id a b
  unfold scan
  rw [mergeSort_eq_append Candidate.le_trans Candidate.le_total
    (fun c => decide (c.start < a.size + 1)), List.map_mergeSort (s := Candidate.le)]
  . rw [List.filter_flatMap, List.filter_flatMap, List.map_flatMap]
    simp only [hcandidates]
  . intro c _ d _
    exact (Candidate.le_shift c d).symm
  . intro c d hle hd
    have := Candidate.start_le_of_le hle
    rw [decide_eq_true_eq] at *
    omega

/-- The invariant of a pass over the candidates of a text: at most one region is open. -/
structure IsFlat (grammar : Grammar) (text : Text) (pass : Pass) : Prop where
  cursor : pass.cursor ≤ text.size
  frames : pass.frames = [] ∨ ∃ frame, pass.frames = [frame]
    ∧ frame.rule ∈ grammar.resolution.scanOrder
    ∧ frame.children = grammar.resolution.region? frame.rule
    ∧ (grammar.rule? frame.rule).bind Rule.region? = some frame.region

variable {text : Text} {pass : Pass} {c : Candidate}

theorem IsFlat.step (h : grammar.IsFlat text pass) (hgrammar : grammar.IsSound)
    (hlines : grammar.IsOfLines) (textSize : Nat) (hc : c ∈ grammar.scan text)
    : grammar.IsFlat text (grammar.step textSize pass c) := by
  have hstop : c.stop ≤ text.size := (hgrammar.hit_isSound hc).isBoundary_stop.le_size
  have hsteps := grammar.steps_step textSize pass c
  generalize grammar.step textSize pass c = next at *
  cases hsteps with
  | skip => exact h
  | close hle hframes hcloses =>
    refine ⟨hstop, Or.inl ?_⟩
    rcases h.frames with hnil | ⟨frame, hframe, -⟩
    . rw [hnil] at hframes
      contradiction
    . rw [hframe] at hframes
      cases hframes
      rfl
  | token hle hphase hactive => exact ⟨hstop, h.frames⟩
  | opening hle hphase hactive hframe =>
    rcases openFrame?_eq_some hframe with ⟨hrule, hchildren, hregion⟩
    refine ⟨hstop, Or.inr ⟨_, ?_, hrule ▸ (mem_scan_iff.mp hc).1, hchildren, hregion⟩⟩
    rcases h.frames with hnil | ⟨outer, houter, -, houters, -⟩
    . dsimp only
      rw [hnil]
    . -- no region begins inside another one
      rw [houter] at hactive
      unfold activeIn at hactive
      dsimp only [List.head?_cons, Option.elim_some] at hactive
      rw [houters] at hactive
      rcases (Option.any_eq_true _ _).mp hactive with ⟨set, hset, hcontains⟩
      have hnone := hlines.flat _ set hset c.rule (List.contains_iff_mem.mp hcontains)
      rw [← hrule, hregion] at hnone
      contradiction

theorem IsFlat.foldl (h : grammar.IsFlat text pass) (hgrammar : grammar.IsSound)
    (hlines : grammar.IsOfLines) (textSize : Nat) {stream : List Candidate}
    (hstream : ∀ c ∈ stream, c ∈ grammar.scan text)
    : grammar.IsFlat text (stream.foldl (grammar.step textSize) pass) := by
  induction stream generalizing pass with
  | nil => exact h
  | cons c stream ih =>
    apply ih (h.step hgrammar hlines textSize (hstream c List.mem_cons_self))
    exact fun c hc => hstream c (List.mem_cons_of_mem _ hc)

theorem frames_foldl_suffix (grammar : Grammar) (textSize : Nat) (pass : Pass)
    {stream : List Candidate} (hstream : ∀ c ∈ stream, c.phase ≠ .opening)
    : (stream.foldl (grammar.step textSize) pass).frames <:+ pass.frames := by
  induction stream generalizing pass with
  | nil => exact List.suffix_refl pass.frames
  | cons c stream ih =>
    have hrest := ih (grammar.step textSize pass c)
      fun c hc => hstream c (List.mem_cons_of_mem _ hc)
    apply hrest.trans
    have hsteps := grammar.steps_step textSize pass c
    generalize grammar.step textSize pass c = next at *
    cases hsteps with
    | skip => exact List.suffix_refl _
    | close hle hframes hcloses =>
      rw [hframes]
      exact List.suffix_cons _ _
    | token hle hphase hactive => exact List.suffix_refl _
    | opening hle hphase hactive hframe => exact absurd hphase (hstream c List.mem_cons_self)

theorem exists_closing (hgrammar : grammar.IsSound) (hlines : grammar.IsOfLines) (text : Text)
    {id : RuleId} {region : Region} (hid : id ∈ grammar.resolution.scanOrder)
    (hregion : (grammar.rule? id).bind Rule.region? = some region)
    : ∃ c ∈ grammar.scan text, c.rule = id ∧ c.phase = .closing ∧ c.start = text.size
        ∧ c.stop = text.size := by
  rcases Option.bind_eq_some_iff.mp hregion with ⟨rule, hrule, hkind⟩
  have hsound := hgrammar.rule hrule
  unfold Rule.region? at hkind
  split at hkind
  . next region' hkind' =>
    cases hkind
    simp only [Rule.IsSound, hkind'] at hsound
    rcases Regex.exists_hit_at_end hsound.2 text (hlines.closes id region hregion)
      with ⟨hit, hhit, hstart, hstop⟩
    refine ⟨⟨id, .closing, hit⟩, mem_scan_iff.mpr ⟨hid, rule, hrule, ?_⟩, rfl, rfl, hstart, hstop⟩
    simp only [Rule.candidates, hkind']
    exact List.mem_append_right _ (List.mem_map.mpr ⟨hit, hhit, rfl⟩)
  . contradiction

theorem start_lt_of_opening (hlines : grammar.IsOfLines) (hc : c ∈ grammar.scan text)
    (hphase : c.phase = .opening) : c.start < c.stop := by
  rcases mem_scan_iff.mp hc with ⟨-, rule, hrule, hc⟩
  rcases (Rule.mem_candidates_iff.mp hc).2 with ⟨regex, hregex, hhit⟩
  rcases Rule.exists_region_of_regex? (hphase ▸ hregex) with ⟨region, hregion, rfl⟩
  rcases Regex.hits.exists_of_mem_go hhit with ⟨cursor, -, hmatch⟩
  have hregion : (grammar.rule? c.rule).bind Rule.region? = some region := by
    rw [hrule, Option.bind_some, hregion]
  exact hlines.opens c.rule region hregion cursor c.hit hmatch

theorem frames_scan (hgrammar : grammar.IsSound) (hlines : grammar.IsOfLines) (text : Text)
    (textSize : Nat)
    : ((grammar.scan text).foldl (grammar.step textSize) ⟨0, [], []⟩).frames = [] := by
  have hstart : grammar.IsFlat text ⟨0, [], []⟩ := ⟨Nat.zero_le _, Or.inl rfl⟩
  rcases (hstart.foldl hgrammar hlines textSize fun c hc => hc).frames
    with hnil | ⟨frame, hframe, hid, -, hregion⟩
  . exact hnil
  . exfalso
    rcases exists_closing hgrammar hlines text hid hregion
      with ⟨c, hc, hrule, hphase, hcstart, hcstop⟩
    rcases List.append_of_mem hc with ⟨before, behind, hscan⟩
    have hmem : ∀ d ∈ before ++ c :: behind, d ∈ grammar.scan text := by
      rw [hscan]
      exact fun d hd => hd
    have hpairwise := grammar.pairwise_scan text
    rw [hscan, List.pairwise_append, List.pairwise_cons] at hpairwise
    rw [hscan, List.foldl_append, List.foldl_cons] at hframe
    have hflat := hstart.foldl hgrammar hlines textSize
      fun d hd => hmem d (List.mem_append_left _ hd)
    generalize before.foldl (grammar.step textSize) ⟨0, [], []⟩ = pass at *
    -- nothing can open a region behind the end of the text
    have hopening : ∀ d ∈ behind, d.phase ≠ .opening := by
      intro d hd hphase
      have hd' := hmem d (List.mem_append_right _ (List.mem_cons_of_mem c hd))
      have hlt := start_lt_of_opening hlines hd' hphase
      have hle := Candidate.start_le_of_le (hpairwise.2.1.1 d hd)
      have hstop : d.stop ≤ text.size := (hgrammar.hit_isSound hd').isBoundary_stop.le_size
      omega
    have hsuffix := grammar.frames_foldl_suffix textSize (grammar.step textSize pass c) hopening
    rw [hframe] at hsuffix
    rcases pass with ⟨cursor, frames, spans⟩
    have hle : cursor ≤ c.start := hcstart ▸ hflat.cursor
    by_cases hcloses : Closes frames c
    . rcases hflat.frames with hframes | ⟨outer, hframes, -⟩
      . dsimp only at hframes
        rw [hframes] at hcloses
        cases hcloses.2
      . dsimp only at hframes
        subst hframes
        rw [step_of_closes hle hcloses] at hsuffix
        exact absurd (List.eq_nil_of_suffix_nil hsuffix) (List.cons_ne_nil _ _)
    . rw [step_of_stray hle hcloses hphase] at hsuffix
      rcases hflat.frames with hframes | ⟨outer, hframes, -⟩
      . dsimp only at hframes
        subst hframes
        exact absurd (List.eq_nil_of_suffix_nil hsuffix) (List.cons_ne_nil _ _)
      . dsimp only at hframes
        subst hframes
        have heq := hsuffix.eq_of_length rfl
        cases heq
        exact hcloses ⟨hphase, by simp [hrule]⟩

/-- The spans of a text of two parts are the spans of the first part and, further behind, those of
the second one. -/
theorem tokenize_append_line (hgrammar : grammar.IsSound) (hlines : grammar.IsOfLines)
    (a b : Text)
    : grammar.tokenize (a ++ '\n' :: b)
      = grammar.tokenize a ++ (grammar.tokenize b).map (Span.shift (a.size + 1)) := by
  have hsize : (a ++ '\n' :: b).size = b.size + (a.size + 1) := by
    rw [Text.size_append, Text.size_cons]
    have : ('\n').utf8Size = 1 := by decide
    omega
  have hstart : grammar.IsFlat a ⟨0, [], []⟩ := ⟨Nat.zero_le _, Or.inl rfl⟩
  have hcursor := (hstart.foldl hgrammar hlines a.size fun c hc => hc).cursor
  -- no region is open behind the first part, so that both parts are passed on their own
  have hspans : grammar.passSpans (b.size + (a.size + 1))
        (grammar.scan a ++ (grammar.scan b).map (Candidate.shift (a.size + 1)))
      = grammar.passSpans a.size (grammar.scan a)
        ++ (grammar.passSpans b.size (grammar.scan b)).map (Span.shift (a.size + 1)) :=
    passSpans_append (frames_scan hgrammar hlines a a.size) (Nat.le_succ_of_le hcursor)
  have hbefore : ∀ span ∈ grammar.passSpans a.size (grammar.scan a),
      decide (span.start < a.size + 1) := by
    intro span hspan
    have hfits := (layered_passSpans fun c hc => hgrammar.hit_isSound hc).fits span hspan
    have := hfits.lt
    have := hfits.le_stop
    rw [decide_eq_true_eq]
    omega
  have hbehind : ∀ span ∈ (grammar.passSpans b.size (grammar.scan b)).map
      (Span.shift (a.size + 1)), decide (span.start < a.size + 1) = false := by
    intro span hspan
    rcases List.mem_map.mp hspan with ⟨span, -, rfl⟩
    exact decide_eq_false (Nat.not_lt.mpr (Nat.le_add_left _ span.start))
  have hstarts (span other : Span) (hle : span.le other)
      (hother : decide (other.start < a.size + 1)) : decide (span.start < a.size + 1) := by
    rw [Span.le_iff] at hle
    rw [decide_eq_true_eq] at *
    omega
  unfold tokenize
  rw [scan_append_line hgrammar hlines, hsize, hspans,
    mergeSort_append Span.le_trans Span.le_total hstarts hbefore hbehind,
    List.map_mergeSort (s := Span.le)]
  intro span _ other _
  rw [Bool.eq_iff_iff, Span.le_iff, Span.le_iff]
  dsimp only [Span.shift]
  omega

end Grammar

end TextScopes
