import TextScopes.Highlight
import TextScopes.Proofs.Grammar.Renumber
import TextScopes.Proofs.Grammar.Sound
import TextScopes.Proofs.Stream
import TextScopes.Proofs.Tokenizer.Step

/-!
This module contains that the numbers of rules have no influence on the spans of a text. Grammars
with the same rules under other numbers have the same candidates in the same order, and a pass over
them does the same at each step.
-/

namespace TextScopes

def Candidate.map (f : RuleId → RuleId) (c : Candidate) : Candidate := { c with rule := f c.rule }

def Frame.map (f : RuleId → RuleId) (frame : Frame) : Frame :=
  { frame with
    rule := f frame.rule
    region := frame.region.map f
    opening := frame.opening.map f
    children := frame.children.map (·.map f) }

def Pass.map (f : RuleId → RuleId) (pass : Pass) : Pass :=
  { pass with frames := pass.frames.map (·.map f) }

variable {f : RuleId → RuleId} {arena other : Arena} {kind kind' : RuleKind}

theorem Arena.Corresponds.candidates_eq (h : arena.Corresponds other f kind kind')
    (name : Option String) (id : RuleId) (text : Text)
    : Rule.candidates ⟨name, kind'⟩ (f id) text
      = (Rule.candidates ⟨name, kind⟩ id text).map (·.map f) := by
  unfold Rule.candidates
  cases h with
  | matching regex captures =>
    dsimp only
    rw [List.map_map]
    rfl
  | region region =>
    dsimp only [Region.map]
    rw [List.map_append, List.map_map, List.map_map]
    rfl
  | _ => rfl

theorem captureSpans.go_map (c : Candidate) (base : ScopeStack) (placed : List Span)
    (entries : List (Nat × String))
    : go (c.map f) base placed entries = go c base placed entries := by
  have hgroup (index : Nat) : (c.map f).group? index = c.group? index := rfl
  induction entries generalizing placed with
  | nil => rfl
  | cons entry rest ih =>
    rcases entry with ⟨index, scope⟩
    rw [go, go, hgroup]
    simp only [ih]

theorem captureSpans_map (c : Candidate) (captures : CaptureMap) (base : ScopeStack)
    : captureSpans (c.map f) captures base = captureSpans c captures base :=
  captureSpans.go_map c base [] captures.entries

theorem Arena.Corresponds.matchSpans_eq (h : arena.Corresponds other f kind kind')
    (name : Option String) (c : Candidate) (scopes : ScopeStack)
    : matchSpans ⟨name, kind'⟩ (c.map f) scopes = matchSpans ⟨name, kind⟩ c scopes := by
  unfold matchSpans
  cases h with
  | matching regex captures =>
    dsimp only
    rw [captureSpans_map]
    rfl
  | _ => rfl

theorem Frame.spans_map (frame : Frame) (textSize : Nat) (closing : Option Candidate)
    : (frame.map f).spans textSize (closing.map (·.map f)) = frame.spans textSize closing := by
  unfold Frame.spans Frame.map
  dsimp only [Region.map]
  rw [captureSpans_map]
  cases closing with
  | none => rfl
  | some c =>
    dsimp only [Option.map_some, Option.elim_some]
    rw [captureSpans_map]
    rfl

namespace Grammar

/-- Whether another grammar has the same rules wherever one can be active, under other numbers. -/
structure Renumbers (grammar other : Grammar) (f : RuleId → RuleId) : Prop where
  scopeName : other.scopeName = grammar.scopeName
  resolution : grammar.resolution.Renumbers other.resolution f
  injOn : Set.InjOn f {id | id ∈ grammar.resolution.scanOrder}
  rule {id : RuleId} (h : id ∈ grammar.resolution.scanOrder)
    : ∃ name kind kind', grammar.rule? id = some ⟨name, kind⟩
      ∧ other.rule? (f id) = some ⟨name, kind'⟩
      ∧ grammar.arena.Corresponds other.arena f kind kind'
  root {id : RuleId} (h : id ∈ grammar.resolution.root.rules) : id ∈ grammar.resolution.scanOrder
  region {id child : RuleId} {set : ActiveSet} (h : grammar.resolution.region? id = some set)
    (hchild : child ∈ set.rules) : child ∈ grammar.resolution.scanOrder

/-- Whether the open regions, and the rules inside them, are rules that are scanned. -/
def IsScannedIn (grammar : Grammar) (pass : Pass) : Prop :=
  ∀ frame ∈ pass.frames, frame.rule ∈ grammar.resolution.scanOrder
    ∧ ∀ set, frame.children = some set → ∀ id ∈ set.rules, id ∈ grammar.resolution.scanOrder

end Grammar

namespace Grammar.Renumbers

variable {grammar other : Grammar} {pass : Pass} {frame : Frame} {frames : List Frame}
  {c : Candidate} {text : Text}

theorem scan_eq (h : grammar.Renumbers other f) (text : Text)
    : other.scan text = (grammar.scan text).map (·.map f) := by
  have hle (a b : Candidate) : a.le b = (a.map f).le (b.map f) := rfl
  unfold scan
  rw [List.map_mergeSort fun a _ b _ => hle a b, h.resolution.scanOrder, List.flatMap_map,
    List.map_flatMap]
  congr 1
  apply List.flatMap_congr
  intro id hid
  rcases h.rule hid with ⟨name, kind, kind', hrule, hrule', hkind⟩
  rw [hrule, hrule']
  exact hkind.candidates_eq name id text

theorem activeIn_any_eq (h : grammar.Renumbers other f)
    (hframes : ∀ frame ∈ frames, ∀ set, frame.children = some set → ∀ id ∈ set.rules,
      id ∈ grammar.resolution.scanOrder)
    (hc : c.rule ∈ grammar.resolution.scanOrder)
    : (other.activeIn (frames.map (·.map f))).any (·.contains (c.map f).rule)
      = (grammar.activeIn frames).any (·.contains c.rule) := by
  have hcontains {set : ActiveSet} (hset : ∀ id ∈ set.rules, id ∈ grammar.resolution.scanOrder)
      : (set.map f).contains (c.map f).rule = set.contains c.rule := contains_map h.injOn hset hc
  cases frames with
  | nil =>
    have hactive : other.activeIn [] = some (grammar.resolution.root.map f) :=
      congrArg some h.resolution.root
    rw [List.map_nil, hactive]
    exact hcontains fun id hid => h.root hid
  | cons frame rest =>
    have hactive : other.activeIn ((frame :: rest).map (·.map f))
        = frame.children.map (·.map f) := rfl
    have hactive' : grammar.activeIn (frame :: rest) = frame.children := rfl
    rw [hactive, hactive']
    cases hchildren : frame.children with
    | none => rfl
    | some set => exact hcontains (hframes frame List.mem_cons_self set hchildren)

theorem scopesIn_eq (h : grammar.Renumbers other f) (frames : List Frame)
    : other.scopesIn (frames.map (·.map f)) = grammar.scopesIn frames := by
  cases frames with
  | nil => exact congrArg (fun scope => [scope]) h.scopeName
  | cons frame rest => rfl

theorem closes_iff (h : grammar.Renumbers other f)
    (hframes : ∀ frame ∈ frames, frame.rule ∈ grammar.resolution.scanOrder)
    (hc : c.rule ∈ grammar.resolution.scanOrder)
    : Closes (frames.map (·.map f)) (c.map f) ↔ Closes frames c := by
  cases frames with
  | nil => simp [Closes]
  | cons frame rest =>
    have hiff : f frame.rule = f c.rule ↔ frame.rule = c.rule :=
      h.injOn.eq_iff (hframes frame List.mem_cons_self) hc
    unfold Closes
    rw [List.map_cons, List.head?_cons, List.head?_cons, Option.map_some, Option.map_some,
      Option.some_inj, Option.some_inj]
    exact and_congr Iff.rfl hiff

theorem tokenSpans_eq (h : grammar.Renumbers other f)
    (hc : c.rule ∈ grammar.resolution.scanOrder) (scopes : ScopeStack)
    : other.tokenSpans scopes (c.map f) = grammar.tokenSpans scopes c := by
  rcases h.rule hc with ⟨name, kind, kind', hrule, hrule', hkind⟩
  have hrule' : other.rule? (c.map f).rule = some ⟨name, kind'⟩ := hrule'
  unfold tokenSpans
  rw [hrule, hrule']
  exact hkind.matchSpans_eq name c scopes

theorem openFrame?_eq (h : grammar.Renumbers other f)
    (hc : c.rule ∈ grammar.resolution.scanOrder) (scopes : ScopeStack)
    : other.openFrame? scopes (c.map f) = (grammar.openFrame? scopes c).map (·.map f) := by
  rcases h.rule hc with ⟨name, kind, kind', hrule, hrule', hkind⟩
  have hrule' : other.rule? (c.map f).rule = some ⟨name, kind'⟩ := hrule'
  have hregion : other.resolution.region? (c.map f).rule
      = (grammar.resolution.region? c.rule).map (·.map f) := h.resolution.region hc
  unfold openFrame?
  rw [hrule, hrule', hregion]
  cases hkind with
  | _ => rfl

theorem isScannedIn_step (h : grammar.Renumbers other f) (hpass : grammar.IsScannedIn pass)
    (hc : c.rule ∈ grammar.resolution.scanOrder) (textSize : Nat)
    : grammar.IsScannedIn (grammar.step textSize pass c) := by
  have hsteps := grammar.steps_step textSize pass c
  generalize grammar.step textSize pass c = next at *
  cases hsteps with
  | skip => exact hpass
  | close hle hframes hcloses =>
    intro frame hframe
    apply hpass
    rw [hframes]
    exact List.mem_cons_of_mem _ hframe
  | token hle hphase hactive => exact hpass
  | opening hle hphase hactive hframe =>
    rcases openFrame?_eq_some hframe with ⟨hrule, hchildren, -⟩
    intro frame hmem
    rcases List.mem_cons.mp hmem with rfl | hmem
    . refine ⟨hrule ▸ hc, ?_⟩
      intro set hset id hid
      exact h.region (hchildren.symm.trans hset) hid
    . exact hpass frame hmem

theorem step_eq (h : grammar.Renumbers other f) (hpass : grammar.IsScannedIn pass)
    (hc : c.rule ∈ grammar.resolution.scanOrder) (textSize : Nat)
    : other.step textSize (pass.map f) (c.map f) = (grammar.step textSize pass c).map f := by
  have hmap (cursor : Nat) (frames : List Frame) (spans : List (List Span))
      : Pass.map f ⟨cursor, frames, spans⟩ = ⟨cursor, frames.map (·.map f), spans⟩ := rfl
  rcases pass with ⟨cursor, frames, spans⟩
  have hany : (other.activeIn (frames.map (·.map f))).any (·.contains (c.map f).rule)
      = (grammar.activeIn frames).any (·.contains c.rule) :=
    h.activeIn_any_eq (fun frame hframe => (hpass frame hframe).2) hc
  have hcloses : Closes (frames.map (·.map f)) (c.map f) ↔ Closes frames c :=
    h.closes_iff (fun frame hframe => (hpass frame hframe).1) hc
  rw [hmap]
  by_cases hlt : c.start < cursor
  . have hlt' : (c.map f).start < cursor := hlt
    rw [step_of_lt hlt, step_of_lt hlt', hmap]
  . have hle := Nat.not_lt.mp hlt
    have hle' : cursor ≤ (c.map f).start := hle
    by_cases hclosed : Closes frames c
    . cases frames with
      | nil => cases hclosed.2
      | cons frame frames =>
        rw [step_of_closes hle hclosed, List.map_cons, step_of_closes hle' (hcloses.mpr hclosed),
          hmap, ← frame.spans_map textSize (some c)]
        rfl
    . have hopen : ¬ Closes (frames.map (·.map f)) (c.map f) := mt hcloses.mp hclosed
      by_cases hactive : (grammar.activeIn frames).any (·.contains c.rule)
      . have hactive' : (other.activeIn (frames.map (·.map f))).any
            (·.contains (c.map f).rule) := hany.trans hactive
        cases hphase : c.phase with
        | closing =>
          have hphase' : (c.map f).phase = .closing := hphase
          rw [step_of_stray hle hclosed hphase, step_of_stray hle' hopen hphase', hmap]
        | matching =>
          have hphase' : (c.map f).phase = .matching := hphase
          rw [step_of_matching hle hactive hphase, step_of_matching hle' hactive' hphase', hmap,
            h.scopesIn_eq, h.tokenSpans_eq hc]
          rfl
        | opening =>
          have hphase' : (c.map f).phase = .opening := hphase
          rw [step_of_opening hle hactive hphase, step_of_opening hle' hactive' hphase',
            h.scopesIn_eq, h.openFrame?_eq hc]
          cases grammar.openFrame? (grammar.scopesIn frames) c with
          | none => rfl
          | some frame => rfl
      . rw [step_of_inactive hle hclosed hactive, step_of_inactive hle' hopen (hany ▸ hactive),
          hmap]

theorem foldl_eq (h : grammar.Renumbers other f) (hpass : grammar.IsScannedIn pass)
    {stream : List Candidate} (hstream : ∀ c ∈ stream, c.rule ∈ grammar.resolution.scanOrder)
    (textSize : Nat)
    : (stream.map (·.map f)).foldl (other.step textSize) (pass.map f)
      = (stream.foldl (grammar.step textSize) pass).map f := by
  induction stream generalizing pass with
  | nil => rfl
  | cons c stream ih =>
    have hc := hstream c List.mem_cons_self
    rw [List.map_cons, List.foldl_cons, List.foldl_cons, h.step_eq hpass hc]
    exact ih (h.isScannedIn_step hpass hc textSize)
      fun c hc => hstream c (List.mem_cons_of_mem _ hc)

theorem tokenize_eq (h : grammar.Renumbers other f) (text : Text)
    : other.tokenize text = grammar.tokenize text := by
  have hstream : ∀ c ∈ grammar.scan text, c.rule ∈ grammar.resolution.scanOrder :=
    fun c hc => (mem_scan_iff.mp hc).1
  have hinitial : grammar.IsScannedIn ⟨0, [], []⟩ := nofun
  have hpass : ((grammar.scan text).map (·.map f)).foldl (other.step text.size) ⟨0, [], []⟩
      = ((grammar.scan text).foldl (grammar.step text.size) ⟨0, [], []⟩).map f :=
    h.foldl_eq hinitial hstream text.size
  have hunclosed (frames : List Frame)
      : (frames.map (·.map f)).map (fun frame => frame.spans text.size none)
        = frames.map fun frame => frame.spans text.size none := by
    rw [List.map_map]
    apply List.map_congr_left
    intro frame _
    exact frame.spans_map text.size none
  unfold tokenize passSpans
  rw [h.scan_eq, hpass]
  dsimp only [Pass.map]
  rw [hunclosed]

theorem highlight_eq (h : grammar.Renumbers other f) (merge : Bool) (text : Text)
    : other.highlight merge text = grammar.highlight merge text := by
  unfold highlight rootScopes
  rw [h.tokenize_eq, h.scopeName]

end Grammar.Renumbers

/-- Grammars that build with the same rules under other numbers are the same for all texts. -/
theorem Arena.Renumbers.grammar {source source' : GrammarSource} {grammar grammar' : Grammar}
    (h : grammar.arena.Renumbers grammar'.arena f) (hbuild : source.build = .ok grammar)
    (hbuild' : source'.build = .ok grammar') (hscopeName : grammar'.scopeName = grammar.scopeName)
    : grammar.Renumbers grammar' f := by
  have hresolve := (source.exists_of_build_eq_ok hbuild).2
  have hresolve' := (source'.exists_of_build_eq_ok hbuild').2
  rcases exists_search_of_resolve hresolve with ⟨-, hsearch⟩
  have hreached : ∀ id ∈ grammar.resolution.scanOrder, grammar.arena.Reaches id :=
    fun id hid => hsearch.reached id (List.mem_append_left _ hid)
  refine ⟨hscopeName, h.renumbers_resolution hresolve hresolve', h.injOn.mono hreached, ?_, ?_, ?_⟩
  . intro id hid
    exact h.rule (hreached id hid)
  . intro id hid
    exact hsearch.isClosed.1 id hid
  . intro id child set hset hchild
    rw [hsearch.region?_eq] at hset
    split at hset
    . next hid =>
      rcases inside?_eq_some_iff.mp hset with ⟨region, hregion, hset⟩
      exact hsearch.isClosed.2 id hid region hregion set hset child hchild
    . contradiction

end TextScopes
