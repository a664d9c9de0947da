import TextScopes.Proofs.Grammar.ScanOrder
import TextScopes.Proofs.Grammar.Sound
import TextScopes.Proofs.Tokenizer.Spans
import TextScopes.Proofs.Tokenizer.Stretch

/-!
This module contains that nothing is missing when a text is read: every region that is opened has
been given the rules inside it, and every rule that is active has all its matches among the
candidates.
-/

namespace TextScopes.Grammar

variable {source : GrammarSource} {grammar : Grammar} {pass : Pass} {c : Candidate}

/-- Whether each open region has the rules that are active inside it. -/
def HasChildren (grammar : Grammar) (pass : Pass) : Prop :=
  ∀ frame ∈ pass.frames, ∃ set, frame.children = some set
    ∧ grammar.resolution.region? frame.rule = some set

/-- Whether a rule has all its matches in a text among the candidates. -/
def IsScanned (grammar : Grammar) (text : Text) (id : RuleId) : Prop :=
  ∃ rule, grammar.rule? id = some rule ∧ ∀ phase regex, rule.regex? phase = some regex →
    ∀ hit ∈ regex.hits text, ⟨id, phase, hit⟩ ∈ grammar.scan text

theorem HasChildren.step (h : grammar.HasChildren pass)
    (hregions : ∀ id ∈ grammar.resolution.scanOrder, ∀ region,
      grammar.arena.region? id = some region → ∃ set, grammar.resolution.region? id = some set)
    (hc : c.rule ∈ grammar.resolution.scanOrder) (textSize : Nat)
    : grammar.HasChildren (grammar.step textSize pass c) := by
  have hsteps := grammar.steps_step textSize pass c
  generalize grammar.step textSize pass c = next at *
  cases hsteps with
  | skip => exact h
  | close hle hframes hcloses =>
    intro frame hframe
    apply h
    rw [hframes]
    exact List.mem_cons_of_mem _ hframe
  | token hle hphase hactive => exact h
  | opening hle hphase hactive hframe =>
    rcases openFrame?_eq_some hframe with ⟨hrule, hchildren, hregion⟩
    intro frame hmem
    rcases List.mem_cons.mp hmem with rfl | hmem
    . rcases hregions _ (hrule ▸ hc) _ hregion with ⟨set, hset⟩
      exact ⟨set, hchildren.trans hset, hset⟩
    . exact h frame hmem

theorem HasChildren.foldl (h : grammar.HasChildren pass)
    (hregions : ∀ id ∈ grammar.resolution.scanOrder, ∀ region,
      grammar.arena.region? id = some region → ∃ set, grammar.resolution.region? id = some set)
    {stream : List Candidate} (hstream : ∀ c ∈ stream, c.rule ∈ grammar.resolution.scanOrder)
    (textSize : Nat) : grammar.HasChildren (stream.foldl (grammar.step textSize) pass) := by
  induction stream generalizing pass with
  | nil => exact h
  | cons c stream ih =>
    apply ih (h.step hregions (hstream c List.mem_cons_self) textSize)
    exact fun c hc => hstream c (List.mem_cons_of_mem _ hc)

theorem HasChildren.mem_scanOrder (h : grammar.HasChildren pass)
    (hsearch : grammar.arena.Search grammar.resolution.root grammar.resolution.scanOrder []
      grammar.resolution)
    {frame : Frame} (hframe : frame ∈ pass.frames) {set : ActiveSet}
    (hset : frame.children = some set) : ∀ id ∈ set.rules, id ∈ grammar.resolution.scanOrder := by
  rcases h frame hframe with ⟨set', hset', hrule⟩
  cases hset.symm.trans hset'
  rcases hsearch.region?_eq_some_iff.mp hrule with ⟨hscanned, hinside⟩
  rcases Arena.inside?_eq_some_iff.mp hinside with ⟨region, hregion, hresolve⟩
  exact hsearch.isClosed.2 _ hscanned region hregion set hresolve

/-- The rules that are scanned are exactly those that can become active, in the order in which they
are found level by level. So whatever text is read, and however far, every open region has been
given the rules inside it, and what is active has all its matches among the candidates. -/
theorem scans_all_active (h : source.build = .ok grammar)
    : grammar.resolution.scanOrder.Nodup
      ∧ grammar.arena.resolveSet grammar.arena.patterns = .ok grammar.resolution.root
      ∧ grammar.arena.IsClosed grammar.resolution.root {id | id ∈ grammar.resolution.scanOrder}
      ∧ (∀ rules, grammar.arena.IsClosed grammar.resolution.root rules →
          ∀ id ∈ grammar.resolution.scanOrder, id ∈ rules)
      ∧ (∀ id, (∃ set, grammar.resolution.region? id = some set)
          ↔ id ∈ grammar.resolution.scanOrder ∧ ∃ region, grammar.arena.region? id = some region)
      ∧ (∀ id set region, grammar.resolution.region? id = some set →
          grammar.arena.region? id = some region →
          grammar.arena.resolveSet region.patterns = .ok set)
      ∧ (∀ steps, foundWithin grammar.resolution.inside grammar.resolution.root.rules steps
          <+: grammar.resolution.scanOrder)
      ∧ (∀ steps ≥ grammar.ruleCount,
          foundWithin grammar.resolution.inside grammar.resolution.root.rules steps
            = grammar.resolution.scanOrder)
      ∧ ∀ text before, before <+: grammar.scan text →
          let pass := before.foldl (grammar.step text.size) ⟨0, [], []⟩
          (∀ frame ∈ pass.frames, ∃ set, frame.children = some set
            ∧ grammar.resolution.region? frame.rule = some set)
          ∧ ∀ set, (set = grammar.resolution.root ∨ ∃ frame ∈ pass.frames,
              frame.children = some set) → ∀ id ∈ set.rules, grammar.IsScanned text id := by
  have hresolve := (source.exists_of_build_eq_ok h).2
  rcases Arena.exists_search_of_resolve hresolve with ⟨hroot, hsearch⟩
  have hresolves := Arena.resolves_resolveSet hroot
  have hnodup := hsearch.nodup
  rw [List.append_nil] at hnodup
  refine ⟨hnodup, hroot, hsearch.isClosed, ?_, ?_, ?_,
    isPrefix_foundWithin hsearch.order_eq hresolves.nodup,
    fun steps hsteps => hsearch.foundWithin_eq hresolves.nodup hsteps, ?_⟩
  . intro rules hclosed id hid
    exact hsearch.least rules hclosed id (by simpa using hid)
  . intro id
    constructor
    . rintro ⟨set, hset⟩
      rcases hsearch.region?_eq_some_iff.mp hset with ⟨hid, hinside⟩
      rcases Arena.inside?_eq_some_iff.mp hinside with ⟨region, hregion, -⟩
      exact ⟨hid, region, hregion⟩
    . rintro ⟨hid, region, hregion⟩
      exact hsearch.exists_region? hid hregion
  . intro id set region hset hregion
    exact hsearch.resolveSet_of_region? hset hregion
  . intro text before hbefore pass
    have hchildren : grammar.HasChildren pass := by
      apply HasChildren.foldl _ (fun id hid region => hsearch.exists_region? hid)
      . intro c hc
        exact (mem_scan_iff.mp (hbefore.subset hc)).1
      . exact nofun
    refine ⟨hchildren, ?_⟩
    intro set hset id hid
    have hscanned : id ∈ grammar.resolution.scanOrder := by
      rcases hset with rfl | ⟨frame, hframe, hset⟩
      . exact hsearch.isClosed.1 id hid
      . exact hchildren.mem_scanOrder hsearch hframe hset id hid
    rcases hsearch.matcher id (by simpa using hscanned) with ⟨rule, hrule, -⟩
    exact ⟨rule, hrule, fun phase regex hregex hit hhit =>
      mem_scan hscanned hrule hregex hhit⟩

/-- Behind the first candidate of `[x]` a region is open, inside which the rules of the region and
of `x` are active. -/
theorem scans_all_active_list
    : ∃ grammar frame, listSource.build = .ok grammar ∧ grammar.resolution.scanOrder.Nodup
        ∧ (∀ steps ≥ grammar.ruleCount,
            foundWithin grammar.resolution.inside grammar.resolution.root.rules steps
              = grammar.resolution.scanOrder)
        ∧ frame ∈ (((grammar.scan "[x]".toList).take 1).foldl (grammar.step 3) ⟨0, [], []⟩).frames
        ∧ frame.children = some ⟨[1, 2]⟩ ∧ grammar.resolution.region? frame.rule = some ⟨[1, 2]⟩
        ∧ ∀ id ∈ [1, 2], grammar.IsScanned "[x]".toList id := by
  have hbuild : ∃ grammar stream, listSource.build = .ok grammar
      ∧ grammar.scan "[x]".toList = stream
      ∧ ((stream.take 1).foldl (grammar.step 3) ⟨0, [], []⟩).frames.map (·.children)
        = [some ⟨[1, 2]⟩] :=
    ⟨_, [⟨1, .opening, 0, 1, [some (0, 1)]⟩, ⟨2, .matching, 1, 2, [some (1, 2)]⟩,
        ⟨1, .closing, 2, 3, [some (2, 3)]⟩],
      rfl, scan_eq_of_perm (by decide) (by decide), rfl⟩
  rcases hbuild with ⟨grammar, _, h, rfl, hframes⟩
  rcases scans_all_active h with ⟨hnodup, -, -, -, -, -, -, hfound, htext⟩
  rcases List.map_eq_singleton_iff.mp hframes with ⟨frame, hframe, hchildren⟩
  have hmem := List.mem_singleton_self frame
  rw [← hframe] at hmem
  rcases htext "[x]".toList _ (List.take_prefix 1 _) with ⟨hregions, hscanned⟩
  rcases hregions frame hmem with ⟨set, hset, hregion⟩
  cases hchildren.symm.trans hset
  exact ⟨grammar, frame, h, hnodup, hfound, hmem, hchildren, hregion,
    hscanned _ (Or.inr ⟨frame, hmem, hchildren⟩)⟩

end TextScopes.Grammar
