import TextScopes.Proofs.Stream
import TextScopes.Proofs.Tokenizer.Spans

/-!
This module contains the choice of tokens by looking anew at the candidates for each of them: the
next token is the first candidate that can be taken, be it among all candidates that are left or
among those behind the latest one taken. The pass over the candidates makes the second choice. The
first one can differ where a region is opened or closed by an empty match, because candidates that
start there may stand in front of the empty match.
-/

namespace TextScopes.Grammar

instance (frames : List Frame) (c : Candidate) : Decidable (Closes frames c) :=
  inferInstanceAs (Decidable (_ ∧ _))

/-- Whether a candidate lies behind the text consumed so far and closes the innermost region, or
belongs to an active rule and closes none. -/
def CanTake (grammar : Grammar) (pass : Pass) (c : Candidate) : Prop :=
  pass.cursor ≤ c.start ∧
    (Closes pass.frames c ∨
      (c.phase ≠ .closing ∧ (grammar.activeIn pass.frames).any (·.contains c.rule)))

instance (grammar : Grammar) (pass : Pass) (c : Candidate) : Decidable (grammar.CanTake pass c) :=
  inferInstanceAs (Decidable (_ ∧ _))

/-- Whether a step takes a candidate: it opens a region, closes one or adds the spans of a token. -/
def takes (grammar : Grammar) (textSize : Nat) (pass : Pass) (c : Candidate) : Bool :=
  let next := grammar.step textSize pass c
  next.frames.length != pass.frames.length || next.spans.length != pass.spans.length

/-- The positions of the candidates that the pass takes, the first one standing at `index`. -/
def taken (grammar : Grammar) (textSize : Nat) : Pass → (index : Nat) → List Candidate → List Nat
  | _, _, [] => []
  | pass, index, c :: rest =>
    let later := grammar.taken textSize (grammar.step textSize pass c) (index + 1) rest
    if grammar.takes textSize pass c then index :: later else later

def takenIn (grammar : Grammar) (text : Text) : List Nat :=
  grammar.taken text.size ⟨0, [], []⟩ 0 (grammar.scan text)

/-- Where to look for the next candidate, given the positions of those taken, the latest first. -/
def lookFrom (ahead : Bool) (taken : List Nat) : Nat :=
  if ahead then taken.head?.elim 0 (· + 1) else 0

/-- The position of the first candidate, from where to look on, that is left and can be taken. -/
def choice? (grammar : Grammar) (stream : List Candidate) (ahead : Bool) (taken : List Nat)
    (pass : Pass) : Option Nat :=
  (List.range' (lookFrom ahead taken) (stream.length - lookFrom ahead taken)).find? fun i =>
    !taken.contains i && stream[i]?.any fun c => decide (grammar.CanTake pass c)

/-- The positions of the candidates chosen one after the other, as long as there is one. -/
def choices (grammar : Grammar) (textSize : Nat) (stream : List Candidate) (ahead : Bool) :
    (rounds : Nat) → (taken : List Nat) → Pass → List Nat
  | 0, _, _ => []
  | rounds + 1, taken, pass =>
    match grammar.choice? stream ahead taken pass with
    | none => []
    | some i =>
      let next := stream[i]?.elim pass (grammar.step textSize pass)
      i :: grammar.choices textSize stream ahead rounds (i :: taken) next

/-- The positions of the candidates in a text that are chosen: among all that are left, or only
among those behind the latest one. A candidate is chosen once, so their number bounds the rounds. -/
def choicesIn (grammar : Grammar) (ahead : Bool) (text : Text) : List Nat :=
  let stream := grammar.scan text
  grammar.choices text.size stream ahead stream.length [] ⟨0, [], []⟩

/-- The state of the pass behind candidates at given positions, the others left out. -/
def passBehind (grammar : Grammar) (text : Text) (taken : List Nat) : Pass :=
  (taken.filterMap ((grammar.scan text)[·]?)).foldl (grammar.step text.size) ⟨0, [], []⟩

/-- Whether a candidate stands in front of an empty match that was taken, opened or closed a region
and starts where the candidate does. -/
def IsMasked (stream : List Candidate) (taken : List Nat) (i : Nat) (c : Candidate) : Prop :=
  ∃ j ∈ taken, i < j ∧
    ∃ e, stream[j]? = some e ∧ e.phase ≠ .matching ∧ e.isEmpty ∧ e.start = c.start

/-- Whether candidates stand in order, none stops before it starts, and what opens a region is of a
rule that is one. -/
structure IsStream (grammar : Grammar) (stream : List Candidate) : Prop where
  sorted : stream.Pairwise fun a b => a.le b
  le : ∀ c ∈ stream, c.start ≤ c.stop
  opens : ∀ c ∈ stream, c.phase = .opening → ∀ scopes, (grammar.openFrame? scopes c).isSome

theorem isStream_scan {source : GrammarSource} {grammar : Grammar}
    (h : source.build = .ok grammar) (text : Text) : grammar.IsStream (grammar.scan text) := by
  refine ⟨pairwise_scan grammar text, ?_, ?_⟩
  . intro c hc
    exact ((source.isSound_of_build h).hit_isSound hc).le
  . intro c hc hphase scopes
    rcases (mem_scan_iff.mp hc).2 with ⟨rule, hrule, hcandidates⟩
    rcases (Rule.mem_candidates_iff.mp hcandidates).2 with ⟨regex, hregex, -⟩
    rcases Rule.exists_region_of_regex? (hphase ▸ hregex) with ⟨region, hregion, -⟩
    simp [openFrame?, hrule, hregion]

section

variable {grammar : Grammar} {textSize n : Nat} {taken : List Nat} {pass : Pass} {c : Candidate}
  {stream : List Candidate}

theorem step_of_not_canTake (h : ¬ grammar.CanTake pass c)
    : grammar.step textSize pass c = pass := by
  rcases pass with ⟨cursor, frames, spans⟩
  unfold CanTake at h
  by_cases hlt : c.start < cursor
  . exact step_of_lt hlt
  . have hle := Nat.not_lt.mp hlt
    have hcloses : ¬ Closes frames c := fun hcloses => h ⟨hle, Or.inl hcloses⟩
    by_cases hphase : c.phase = .closing
    . exact step_of_stray hle hcloses hphase
    . exact step_of_inactive hle hcloses fun hactive => h ⟨hle, Or.inr ⟨hphase, hactive⟩⟩

theorem takes_of_canTake
    (hopens : c.phase = .opening → ∀ scopes, (grammar.openFrame? scopes c).isSome)
    (h : grammar.CanTake pass c) : grammar.takes textSize pass c := by
  rcases pass with ⟨cursor, frames, spans⟩
  rcases h with ⟨hle, hcloses | ⟨hphase, hactive⟩⟩
  . cases frames with
    | nil => cases hcloses.2
    | cons frame frames =>
      unfold takes
      rw [step_of_closes hle hcloses]
      simp
  . unfold takes
    cases heq : c.phase with
    | closing => contradiction
    | matching =>
      rw [step_of_matching hle hactive heq]
      simp
    | opening =>
      rcases Option.isSome_iff_exists.mp (hopens heq (grammar.scopesIn frames))
        with ⟨frame, hframe⟩
      rw [step_of_opening hle hactive heq, hframe]
      simp

theorem taken_cons_of_not_canTake {rest : List Candidate} (h : ¬ grammar.CanTake pass c)
    : grammar.taken textSize pass n (c :: rest) = grammar.taken textSize pass (n + 1) rest := by
  simp [Grammar.taken, takes, step_of_not_canTake h]

theorem taken_cons_of_canTake {rest : List Candidate}
    (hopens : c.phase = .opening → ∀ scopes, (grammar.openFrame? scopes c).isSome)
    (h : grammar.CanTake pass c)
    : grammar.taken textSize pass n (c :: rest)
        =
      n :: grammar.taken textSize (grammar.step textSize pass c) (n + 1) rest := by
  simp [Grammar.taken, takes_of_canTake hopens h]

/-- The states of the pass: the number of candidates read, the positions of those taken, the latest
first, and the state. -/
inductive Reaches (grammar : Grammar) (textSize : Nat) (stream : List Candidate)
    : Nat → List Nat → Pass → Prop
  | start : Reaches grammar textSize stream 0 [] ⟨0, [], []⟩
  | skip {n : Nat} {taken : List Nat} {pass : Pass} {c : Candidate}
    (h : Reaches grammar textSize stream n taken pass) (hc : stream[n]? = some c)
    (hskip : ¬ grammar.CanTake pass c) : Reaches grammar textSize stream (n + 1) taken pass
  | take {n : Nat} {taken : List Nat} {pass : Pass} {c : Candidate}
    (h : Reaches grammar textSize stream n taken pass) (hc : stream[n]? = some c)
    (htake : grammar.CanTake pass c)
    : Reaches grammar textSize stream (n + 1) (n :: taken) (grammar.step textSize pass c)

namespace Reaches

theorem lt (h : Reaches grammar textSize stream n taken pass) : ∀ i ∈ taken, i < n := by
  induction h with
  | start => simp
  | skip h hc hskip ih =>
    intro i hi
    have := ih i hi
    omega
  | take h hc htake ih =>
    intro i hi
    cases hi with
    | head => omega
    | tail _ hi =>
      have := ih i hi
      omega

/-- No candidate behind the latest one taken is passed over. -/
theorem not_canTake_ahead (h : Reaches grammar textSize stream n taken pass) {i : Nat}
    (hle : lookFrom true taken ≤ i) (hlt : i < n) (hc : stream[i]? = some c)
    : ¬ grammar.CanTake pass c := by
  induction h with
  | start => omega
  | @skip m taken pass d h hd hskip ih =>
    by_cases heq : i = m
    . rw [heq, hd] at hc
      cases hc
      exact hskip
    . exact ih hle (by omega)
  | take h hd htake ih =>
    simp [lookFrom] at hle
    omega

/-- A candidate that is passed over and can be taken later is masked by an empty match. -/
theorem isMasked_of_canTake (h : Reaches grammar textSize stream n taken pass)
    (hstream : grammar.IsStream stream) {i : Nat} (hlt : i < n) (hi : i ∉ taken)
    (hc : stream[i]? = some c) (htake : grammar.CanTake pass c)
    : IsMasked stream taken i c := by
  induction h with
  | start => omega
  | @skip m taken pass d h hd hskip ih =>
    by_cases heq : i = m
    . rw [heq, hd] at hc
      cases hc
      contradiction
    . exact ih (by omega) hi htake
  | @take m taken pass d h hd hdtake ih =>
    have hne : i ≠ m := fun heq => hi (by simp [heq])
    have hbefore : i < m := by omega
    have hold : i ∉ taken := fun hmem => hi (List.mem_cons_of_mem _ hmem)
    have hsteps := steps_step grammar textSize pass d
    have hdstop := hstream.le d (List.mem_of_getElem? hd)
    have hstart : c.start ≤ d.start := by
      rcases List.getElem?_eq_some_iff.mp hc with ⟨hi', rfl⟩
      rcases List.getElem?_eq_some_iff.mp hd with ⟨hm', rfl⟩
      apply Candidate.start_le_of_le
      exact List.pairwise_iff_getElem.mp hstream.sorted i m hi' hm' hbefore
    have hhere (hphase : d.phase ≠ .matching) (hle : d.stop ≤ c.start)
        : IsMasked stream (m :: taken) i c := by
      refine ⟨m, List.mem_cons_self, hbefore, d, hd, hphase, ?_, by omega⟩
      rw [Candidate.isEmpty, beq_iff_eq]
      omega
    have hearlier (hcan : grammar.CanTake pass c) : IsMasked stream (m :: taken) i c := by
      rcases ih hbefore hold hcan with ⟨j, hj, hrest⟩
      exact ⟨j, List.mem_cons_of_mem _ hj, hrest⟩
    generalize grammar.step textSize pass d = next at hsteps htake
    cases hsteps with
    | skip => exact hearlier htake
    | close hle hframes hcloses => exact hhere (by simp [hcloses.1]) htake.1
    | token hle hphase hactive =>
      -- the open regions stay as they are, so what can be taken now could be taken before
      refine hearlier ⟨?_, htake.2⟩
      have := htake.1
      dsimp only at this
      omega
    | opening hle hphase hactive hframe => exact hhere (by simp [hphase]) htake.1

theorem taken_eq (h : Reaches grammar textSize stream n taken pass)
    (hstream : grammar.IsStream stream)
    : grammar.taken textSize ⟨0, [], []⟩ 0 stream
        =
      taken.reverse ++ grammar.taken textSize pass n (stream.drop n) := by
  induction h with
  | start => simp
  | skip h hc hskip ih =>
    rcases List.getElem?_eq_some_iff.mp hc with ⟨hlt, rfl⟩
    rw [ih, List.drop_eq_getElem_cons hlt, taken_cons_of_not_canTake hskip]
  | take h hc htake ih =>
    rcases List.getElem?_eq_some_iff.mp hc with ⟨hlt, rfl⟩
    rw [ih, List.drop_eq_getElem_cons hlt,
      taken_cons_of_canTake (hstream.opens _ (List.getElem_mem hlt)) htake]
    simp

theorem pass_eq (h : Reaches grammar textSize stream n taken pass)
    : pass = (taken.reverse.filterMap (stream[·]?)).foldl (grammar.step textSize) ⟨0, [], []⟩ := by
  induction h with
  | start => rfl
  | skip h hc hskip ih => exact ih
  | take h hc htake ih =>
    rw [List.reverse_cons, List.filterMap_append, List.foldl_append, ← ih]
    simp [hc]

theorem exists_append {before after taken : List Nat} {n : Nat} {pass : Pass}
    (h : Reaches grammar textSize stream n taken pass) (hstream : grammar.IsStream stream)
    (hbefore : grammar.taken textSize pass n (stream.drop n) = before ++ after)
    : ∃ n' pass', Reaches grammar textSize stream n' (before.reverse ++ taken) pass'
        ∧ grammar.taken textSize pass' n' (stream.drop n') = after := by
  by_cases hlt : n < stream.length
  . have hc : stream[n]? = some stream[n] := List.getElem?_eq_getElem hlt
    have hopens := hstream.opens _ (List.getElem_mem hlt)
    by_cases htake : grammar.CanTake pass stream[n]
    . cases before with
      | nil => exact ⟨n, pass, h, hbefore⟩
      | cons i before =>
        rw [List.drop_eq_getElem_cons hlt, taken_cons_of_canTake hopens htake] at hbefore
        injection hbefore with hi hbefore
        subst hi
        rcases exists_append (h.take hc htake) hstream hbefore with ⟨n', pass', h', hafter⟩
        exact ⟨n', pass', by simpa using h', hafter⟩
    . rw [List.drop_eq_getElem_cons hlt, taken_cons_of_not_canTake htake] at hbefore
      exact exists_append (h.skip hc htake) hstream hbefore
  . have hdrop := List.drop_of_length_le (Nat.not_lt.mp hlt)
    rw [hdrop] at hbefore
    rcases List.append_eq_nil_iff.mp hbefore.symm with ⟨rfl, rfl⟩
    exact ⟨n, pass, h, by rw [hdrop]; rfl⟩
termination_by stream.length - n

end Reaches

/-- A candidate that can be taken and is still to be read is not passed over: the next one taken is
that candidate or one in front of it. -/
theorem exists_taken_le {n i : Nat} (hstream : grammar.IsStream stream) (hle : n ≤ i)
    (hc : stream[i]? = some c) (htake : grammar.CanTake pass c)
    : ∃ m later, grammar.taken textSize pass n (stream.drop n) = m :: later ∧ m ≤ i := by
  have hi : i < stream.length := (List.getElem?_eq_some_iff.mp hc).1
  have hlt : n < stream.length := Nat.lt_of_le_of_lt hle hi
  rw [List.drop_eq_getElem_cons hlt]
  by_cases htake' : grammar.CanTake pass stream[n]
  . rw [taken_cons_of_canTake (hstream.opens _ (List.getElem_mem hlt)) htake']
    exact ⟨n, _, rfl, hle⟩
  . rw [taken_cons_of_not_canTake htake']
    apply exists_taken_le hstream _ hc htake
    have : n ≠ i := by
      intro heq
      subst heq
      rw [List.getElem?_eq_getElem hlt] at hc
      cases hc
      contradiction
    omega
termination_by stream.length - n

theorem not_isChoosable {i : Nat}
    (h : ∀ c, i ∉ taken → stream[i]? = some c → ¬ grammar.CanTake pass c)
    : (!taken.contains i && stream[i]?.any fun c => decide (grammar.CanTake pass c)) = false := by
  cases hc : stream[i]? with
  | none => simp
  | some c => simpa using fun hmem => h c hmem hc

theorem choice?_eq_none {ahead : Bool}
    (h : ∀ i c, lookFrom ahead taken ≤ i → i ∉ taken → stream[i]? = some c →
      ¬ grammar.CanTake pass c)
    : grammar.choice? stream ahead taken pass = none := by
  unfold choice?
  rw [List.find?_range'_eq_none]
  intro i hle hlt
  rw [not_isChoosable fun c => h i c hle]
  rfl

theorem choice?_eq_some {ahead : Bool} (hle : lookFrom ahead taken ≤ n) (hn : n ∉ taken)
    (hc : stream[n]? = some c) (htake : grammar.CanTake pass c)
    (h : ∀ i c, lookFrom ahead taken ≤ i → i < n → i ∉ taken → stream[i]? = some c →
      ¬ grammar.CanTake pass c)
    : grammar.choice? stream ahead taken pass = some n := by
  have hlt : n < stream.length := (List.getElem?_eq_some_iff.mp hc).1
  unfold choice?
  rw [List.find?_range'_eq_some]
  refine ⟨by simp [hn, hc, htake], by simp; omega, ?_⟩
  intro i hle' hlt'
  rw [not_isChoosable fun c => h i c hle' hlt']
  rfl

theorem lookFrom_le {ahead : Bool} (h : ∀ i ∈ taken, i < n) : lookFrom ahead taken ≤ n := by
  unfold lookFrom
  split
  . cases taken with
    | nil => simp
    | cons i taken =>
      have := h i List.mem_cons_self
      simp
      omega
  . omega

/-- If the pass passes over nothing that can be taken from where to look on, it takes what is
chosen. -/
theorem taken_eq_choices {ahead : Bool} {n rounds : Nat} {taken : List Nat} {pass : Pass}
    (hstream : grammar.IsStream stream)
    (hnone : ∀ {n taken pass}, Reaches grammar textSize stream n taken pass →
      ∀ i c, lookFrom ahead taken ≤ i → i < n → i ∉ taken → stream[i]? = some c →
        ¬ grammar.CanTake pass c)
    (h : Reaches grammar textSize stream n taken pass) (hrounds : stream.length - n ≤ rounds)
    : grammar.taken textSize pass n (stream.drop n)
        =
      grammar.choices textSize stream ahead rounds taken pass := by
  by_cases hlt : n < stream.length
  . have hc : stream[n]? = some stream[n] := List.getElem?_eq_getElem hlt
    rw [List.drop_eq_getElem_cons hlt]
    by_cases htake : grammar.CanTake pass stream[n]
    . rw [taken_cons_of_canTake (hstream.opens _ (List.getElem_mem hlt)) htake]
      obtain ⟨rounds, rfl⟩ : ∃ r, rounds = r + 1 := ⟨rounds - 1, by omega⟩
      -- the next candidate is the first one left that can be taken, and so the choice
      have hn : n ∉ taken := fun hmem => Nat.lt_irrefl n (h.lt n hmem)
      have hrest : stream.length - (n + 1) ≤ rounds := by omega
      rw [choices, choice?_eq_some (lookFrom_le h.lt) hn hc htake (hnone h)]
      dsimp only
      rw [hc, Option.elim_some, taken_eq_choices hstream hnone (h.take hc htake) hrest]
    . rw [taken_cons_of_not_canTake htake]
      exact taken_eq_choices hstream hnone (h.skip hc htake) (by omega)
  . have hle := Nat.not_lt.mp hlt
    rw [List.drop_of_length_le hle]
    cases rounds with
    | zero => rfl
    | succ rounds =>
      rw [choices, choice?_eq_none]
      . rfl
      . intro i c hi hmem hc
        have : i < stream.length := (List.getElem?_eq_some_iff.mp hc).1
        exact hnone h i c hi (by omega) hmem hc
termination_by stream.length - n

end

/-- The pass takes what is chosen among the candidates behind the latest one taken. It passes over a
candidate that can be taken later only where an empty match behind it opens or closes a region, so
without such matches it takes what is chosen among all candidates. -/
theorem takenIn_eq_choicesIn {source : GrammarSource} {grammar : Grammar}
    (h : source.build = .ok grammar) (text : Text)
    : grammar.takenIn text = grammar.choicesIn true text
      ∧ (∀ before after, grammar.takenIn text = before ++ after →
          ∀ i c, (grammar.scan text)[i]? = some c → i ∉ before →
            grammar.CanTake (grammar.passBehind text before) c →
            ((∀ j ∈ before, j < i) ∧ ∃ next later, after = next :: later ∧ next ≤ i)
              ∨ IsMasked (grammar.scan text) before i c)
      ∧ ((∀ j ∈ grammar.takenIn text, ∀ e, (grammar.scan text)[j]? = some e →
            e.phase ≠ .matching → ¬ e.isEmpty) →
          grammar.takenIn text = grammar.choicesIn false text) := by
  have hstream := isStream_scan h text
  refine ⟨?_, ?_, ?_⟩
  . apply taken_eq_choices hstream _ Reaches.start (Nat.sub_le _ _)
    intro n taken pass hreaches i c hle hlt _ hc
    exact hreaches.not_canTake_ahead hle hlt hc
  . intro before after hbefore i c hc hi htake
    rcases Reaches.start.exists_append hstream hbefore with ⟨n, pass, hreaches, hafter⟩
    have hpass := hreaches.pass_eq
    rw [List.append_nil] at hreaches
    rw [List.append_nil, List.reverse_reverse] at hpass
    unfold passBehind at htake
    rw [← hpass] at htake
    by_cases hlt : i < n
    . right
      simpa [IsMasked] using hreaches.isMasked_of_canTake hstream hlt (by simpa using hi) hc htake
    . left
      refine ⟨?_, ?_⟩
      . intro j hj
        have := hreaches.lt j (by simpa using hj)
        omega
      . rw [← hafter]
        exact exists_taken_le hstream (Nat.not_lt.mp hlt) hc htake
  . intro hempty
    apply taken_eq_choices hstream _ Reaches.start (Nat.sub_le _ _)
    intro n taken pass hreaches i c hle hlt hi hc htake
    rcases hreaches.isMasked_of_canTake hstream hlt hi hc htake
      with ⟨j, hj, -, e, he, hphase, hisEmpty, -⟩
    apply hempty j _ e he hphase hisEmpty
    unfold takenIn
    rw [hreaches.taken_eq hstream]
    simp [hj]

/-- A grammar for lines with an optional mark in front, behind which each `a` counts. -/
def markSource : GrammarSource where
  scopeName := "source.mark"
  patterns := [
    { name := some "meta.mark", beginPattern := some "^b?", endPattern := some "e",
      patterns := some [{ name := some "constant.a", matchPattern := some "a" }] }]

def markGrammar : Grammar where
  scopeName := "source.mark"
  displayName := none
  fileTypes := []
  firstLineMatch := none
  foldingStartMarker := none
  foldingStopMarker := none
  arena :=
    { rules := [
        ⟨some "constant.a", .matching ⟨"a", .literal ['a']⟩ ∅⟩,
        ⟨some "meta.mark", .region
          { opening :=
              ⟨"^b?", .concat [.look .lineStart, .repetition 0 (some 1) true (.literal ['b'])]⟩
            closing := ⟨"e", .literal ['e']⟩
            contentName := none
            beginCaptures := ∅
            endCaptures := ∅
            patterns := [0] }⟩]
      patterns := [1]
      repository := ∅ }
  resolution := ⟨⟨[1]⟩, [(1, ⟨[0]⟩)], [1, 0]⟩

theorem build_markSource : markSource.build = .ok markGrammar := rfl

theorem takenIn_eq_choicesIn_mark : markSource.build = .ok markGrammar
    ∧ markGrammar.takenIn ['b', 'a'] = markGrammar.choicesIn true ['b', 'a']
    ∧ markGrammar.takenIn ['b', 'a'] = markGrammar.choicesIn false ['b', 'a'] := by
  have h := takenIn_eq_choicesIn build_markSource ['b', 'a']
  refine ⟨build_markSource, h.1, h.2.2 ?_⟩
  have hscan : markGrammar.scan ['b', 'a']
      = [⟨1, .opening, 0, 1, [some (0, 1)]⟩, ⟨0, .matching, 1, 2, [some (1, 2)]⟩] :=
    scan_eq_of_perm (by decide) (by decide)
  have htaken : markGrammar.takenIn ['b', 'a'] = [0, 1] := by
    unfold takenIn
    rw [hscan]
    rfl
  simp [htaken, hscan, Candidate.isEmpty, Candidate.start, Candidate.stop]

/-- The `a` stands in front of the empty match that opens the region, and is passed over. -/
theorem takenIn_ne_choicesIn_mark : markSource.build = .ok markGrammar
    ∧ markGrammar.takenIn ['a'] ≠ markGrammar.choicesIn false ['a'] := by
  have hscan : markGrammar.scan ['a']
      = [⟨0, .matching, 0, 1, [some (0, 1)]⟩, ⟨1, .opening, 0, 0, [some (0, 0)]⟩] :=
    scan_eq_of_perm (by decide) (by decide)
  have htaken : markGrammar.takenIn ['a'] = [1] := by
    unfold takenIn
    rw [hscan]
    rfl
  have hchoices : markGrammar.choicesIn false ['a'] = [1, 0] := by
    unfold choicesIn
    rw [hscan]
    rfl
  exact ⟨build_markSource, by simp [htaken, hchoices]⟩

end TextScopes.Grammar
