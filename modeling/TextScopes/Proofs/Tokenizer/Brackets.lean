import TextScopes.Proofs.Grammar.Build
import TextScopes.Proofs.Grammar.Growth
import TextScopes.Proofs.Regex.Parser
import TextScopes.Proofs.Regex.Prefers
import TextScopes.Proofs.Span.Brackets
import TextScopes.Proofs.Tokenizer.Stretch

/-!
This module contains that a region that contains itself matches brackets. Its grammar has nothing
but a region between two characters, inside which all rules of the grammar are active again.
-/

namespace TextScopes.Brackets

open Builtin (includeRule)
open Regex
open RuleSource (addTo_includeRule addTo_nested addAllTo_nil addAllTo_cons)

section Grammar

variable (o c : Char) (scope base : String)

def nestedRule : RuleSource where
  name := some scope
  beginPattern := some (literalPattern o)
  endPattern := some (literalPattern c)
  patterns := some [includeRule "$self"]

def source : GrammarSource where
  scopeName := base
  patterns := [nestedRule o c scope]

def region : Region where
  opening := ⟨literalPattern o, .literal [o]⟩
  closing := ⟨literalPattern c, .literal [c]⟩
  contentName := none
  beginCaptures := ∅
  endCaptures := ∅
  patterns := [0]

def rules : List Rule := [⟨none, .reference .root⟩, ⟨some scope, .region (region o c)⟩]

def arena : Arena := ⟨rules o c scope, [1], ∅⟩

/-- The region is active everywhere, also inside itself. -/
def resolution : Resolution := ⟨⟨[1]⟩, [(1, ⟨[1]⟩)], [1]⟩

theorem arena_source : (source o c scope base).arena = .ok (arena o c scope) := by
  have hchildren (path : Nat → RulePath)
      : RuleSource.addAllTo [] path 0 [includeRule "$self"]
        = .ok ([⟨none, .reference .root⟩], [0]) :=
    addAllTo_cons (addTo_includeRule rfl) (addAllTo_nil _ _ _)
  have hkind (path : RulePath)
      : (nestedRule o c scope).toKind path (.region (literalPattern o) (literalPattern c)) [0]
        = .ok (.region (region o c)) := by
    unfold RuleSource.toKind RuleSource.toRegion compileAt
    dsimp only
    rw [compile_literalPattern, compile_literalPattern]
    rfl
  have hrule (path : RulePath)
      : (nestedRule o c scope).addTo [] path = .ok (rules o c scope, 1) :=
    addTo_nested rfl rfl (hchildren _) (hkind _)
  have hpatterns : RuleSource.addAllTo [] .root 0 (source o c scope base).patterns
      = .ok (rules o c scope, [1]) :=
    addAllTo_cons (hrule _) (addAllTo_nil _ _ _)
  have harena : (source o c scope base).arena
      = RuleSource.addAllTo [] .root 0 (source o c scope base).patterns >>= fun added =>
          .ok ⟨added.1, added.2, ∅⟩ := rfl
  rw [harena, hpatterns]
  rfl

theorem resolve_arena : (arena o c scope).resolve = .ok resolution := rfl

def grammar : Grammar where
  scopeName := base
  displayName := none
  fileTypes := []
  firstLineMatch := none
  foldingStartMarker := none
  foldingStopMarker := none
  arena := arena o c scope
  resolution := resolution

theorem build_source (hbase : ∃ x ∈ base.toList, ¬ isBlank x)
    : (source o c scope base).build = .ok (grammar o c scope base) := by
  have hblank : ¬ (trimBlanks (source o c scope base).scopeName.toList).isEmpty := by
    rw [isEmpty_trimBlanks_iff]
    simpa [source] using hbase
  have hfirst : (source o c scope base).firstLineMatch = none := rfl
  unfold GrammarSource.build
  rw [if_neg hblank, hfirst, arena_source]
  dsimp only [bind, Except.bind]
  rw [resolve_arena]
  rfl

end Grammar

section Pass

variable (o c : Char) (scope base : String)

def frame (outer : List Nat) (start : Nat) : Frame where
  rule := 1
  name := some scope
  region := region o c
  opening := ⟨1, .opening, .whole start (start + o.utf8Size)⟩
  children := some ⟨[1]⟩
  outer := List.replicate (outer.length + 1) scope ++ [base]
  inner := List.replicate (outer.length + 1) scope ++ [base]

def frames : List Nat → List Frame
  | [] => []
  | start :: outer => frame o c scope base outer start :: frames outer

variable {o c scope base} {opened outer : List Nat} {start : Nat} {before rest : Text} {x : Char}

theorem activeIn_frames
    : (grammar o c scope base).activeIn (frames o c scope base opened) = some ⟨[1]⟩ := by
  cases opened with
  | nil => rfl
  | cons start outer => rfl

theorem scopesIn_frames
    : (grammar o c scope base).scopesIn (frames o c scope base opened)
      = List.replicate opened.length scope ++ [base] := by
  cases opened with
  | nil => rfl
  | cons start outer => rfl

theorem spans_frame {textSize : Nat} {closing : Option Candidate} {stop : Nat}
    (hstop : closing.elim textSize (·.stop) = stop) (hlt : start < stop)
    : (frame o c scope base outer start).spans textSize closing
      = [span scope [base] outer start stop] := by
  have hwhole : spanOf (frame o c scope base outer start).outer start stop
      = [span scope [base] outer start stop] := if_pos hlt
  unfold Frame.spans
  rw [hstop]
  cases closing with
  | none => exact hwhole
  | some closing => exact hwhole

theorem exists_of_mem_scan {text : Text} {d : Candidate}
    (hd : d ∈ (grammar o c scope base).scan text)
    : ∃ (front : Text) (x : Char) (tail : Text), front ++ x :: tail = text ∧ d.start = front.size
      ∧ d.rule = 1 ∧ ((d.phase = .opening ∧ x = o) ∨ (d.phase = .closing ∧ x = c)) := by
  rcases Grammar.mem_scan_iff.mp hd with ⟨hid, rule, hrule, hcandidate⟩
  have hid : d.rule = 1 := List.mem_singleton.mp hid
  rcases (Rule.mem_candidates_iff.mp hcandidate).2 with ⟨regex, hregex, -⟩
  rcases Grammar.exists_word_of_mem_scan hd hrule hregex with ⟨front, w, tail, htext, hw, hfront, -⟩
  rw [hid] at hrule
  cases hrule
  cases hphase : d.phase with
  | opening =>
    rw [hphase] at hregex
    cases hregex
    cases hw
    exact ⟨front, o, tail, htext, hfront, hid, Or.inl ⟨rfl, rfl⟩⟩
  | matching =>
    rw [hphase] at hregex
    cases hregex
  | closing =>
    rw [hphase] at hregex
    cases hregex
    cases hw
    exact ⟨front, c, tail, htext, hfront, hid, Or.inr ⟨rfl, rfl⟩⟩

theorem cases_of_mem_scan {d : Candidate}
    (hd : d ∈ (grammar o c scope base).scan (before ++ ([x] ++ rest)))
    (hstart : before.size ≤ d.start) (hlt : d.start < (before ++ [x]).size)
    : d.rule = 1 ∧ ((d.phase = .opening ∧ x = o) ∨ (d.phase = .closing ∧ x = c)) := by
  rcases exists_of_mem_scan hd with ⟨front, y, tail, htext, hfront, hid, hphase⟩
  have hmem : y ∈ [x] := Text.mem_of_append_eq htext (hfront ▸ hstart) (hfront ▸ hlt)
  rw [List.mem_singleton] at hmem
  subst hmem
  exact ⟨hid, hphase⟩

theorem nodup_scanOrder : (grammar o c scope base).resolution.scanOrder.Nodup :=
  List.nodup_singleton 1

/-- The candidate of one of the two patterns where its character stands. -/
def mark (phase : Phase) (start : Nat) (x : Char) : Candidate :=
  ⟨1, phase, .whole start (start + x.utf8Size)⟩

theorem mark_mem_scan {phase : Phase}
    (hphase : (phase = .opening ∧ x = o) ∨ (phase = .closing ∧ x = c))
    : mark phase before.size x ∈ (grammar o c scope base).scan (before ++ ([x] ++ rest)) := by
  rcases hphase with ⟨rfl, rfl⟩ | ⟨rfl, rfl⟩
  . exact Grammar.mem_scan (List.mem_singleton_self 1) rfl rfl (whole_mem_hits_char _ before x rest)
  . exact Grammar.mem_scan (List.mem_singleton_self 1) rfl rfl (whole_mem_hits_char _ before x rest)

theorem start_mark_lt (phase : Phase) (start : Nat) (x : Char)
    : (mark phase start x).start < (mark phase start x).stop :=
  Nat.lt_add_of_pos_right x.utf8Size_pos

theorem eq_mark_of_mem_scan {d : Candidate}
    (hd : d ∈ (grammar o c scope base).scan (before ++ ([x] ++ rest)))
    (hstart : d.start = before.size)
    : ∃ phase, d = mark phase before.size x
      ∧ ((phase = .opening ∧ x = o) ∨ (phase = .closing ∧ x = c)) := by
  have hlt : d.start < (before ++ [x]).size := by
    have := x.utf8Size_pos
    rw [hstart, Text.size_append, Text.size_cons, Text.size_nil]
    omega
  rcases cases_of_mem_scan hd (Nat.le_of_eq hstart.symm) hlt with ⟨hrule, hphase⟩
  exact ⟨d.phase, Grammar.eq_of_mem_scan (mark_mem_scan hphase) hd hrule rfl hstart, hphase⟩

theorem moves_close (hlt : start < before.size + c.utf8Size)
    : (grammar o c scope base).Moves (before ++ ([c] ++ rest)) before.size (before ++ [c]).size
        (frames o c scope base (start :: outer)) (frames o c scope base outer)
        [span scope [base] outer start (before.size + c.utf8Size)] := by
  have hmem : mark .closing before.size c
      ∈ (grammar o c scope base).scan (before ++ ([c] ++ rest)) := mark_mem_scan (Or.inr ⟨rfl, rfl⟩)
  have hspans : (frame o c scope base outer start).spans (before ++ ([c] ++ rest)).size
        (some (mark .closing before.size c))
      = [span scope [base] outer start (before.size + c.utf8Size)] := spans_frame rfl hlt
  rw [Text.size_append, ← hspans]
  apply Grammar.Moves.of_closing nodup_scanOrder hmem (start_mark_lt _ _ _) _ ⟨rfl, rfl⟩
  intro d hd hstart
  rcases eq_mark_of_mem_scan hd hstart with ⟨phase, rfl, hphase⟩
  rcases hphase with ⟨rfl, rfl⟩ | ⟨rfl, -⟩
  . -- the character might open another bracket as well, but closing comes first
    right
    right
    apply Grammar.sublist_scan_of_not_le hmem hd (by simp [mark])
    simp [Candidate.le_iff, Candidate.length, Candidate.rank, mark, Candidate.start, Candidate.stop,
      Hit.whole]
  . exact Or.inl rfl

theorem moves_other (hx : x = c → opened = [])
    : (grammar o c scope base).Moves (before ++ ([x] ++ rest)) before.size (before ++ [x]).size
        (frames o c scope base opened)
        (frames o c scope base (if x = o then before.size :: opened else opened)) [] := by
  have hactive (d : Candidate) (hd : d.rule = 1)
      : ((grammar o c scope base).activeIn (frames o c scope base opened)).any
          (·.contains d.rule) := by
    rw [activeIn_frames, hd]
    rfl
  -- where a closing bracket has nothing to close it is skipped
  have hstray {d : Candidate} (hphase : d.phase = .closing) (hd : x = c)
      : (grammar o c scope base).Skips (frames o c scope base opened) d := by
    rw [hx hd]
    exact ⟨nofun, Or.inl hphase⟩
  split
  . next hopening =>
    subst hopening
    have hmem : mark .opening before.size x
        ∈ (grammar x c scope base).scan (before ++ ([x] ++ rest)) :=
      mark_mem_scan (Or.inl ⟨rfl, rfl⟩)
    have hframe : (grammar x c scope base).openFrame?
          ((grammar x c scope base).scopesIn (frames x c scope base opened))
          (mark .opening before.size x)
        = some (frame x c scope base opened before.size) := by
      rw [scopesIn_frames]
      rfl
    rw [Text.size_append]
    refine Grammar.Moves.of_opening nodup_scanOrder hmem (start_mark_lt _ _ _) ?_ rfl
      (hactive _ rfl) hframe
    intro d hd hstart
    rcases eq_mark_of_mem_scan hd hstart with ⟨phase, rfl, hphase⟩
    rcases hphase with ⟨rfl, -⟩ | ⟨rfl, hclosing⟩
    . exact Or.inl rfl
    . exact Or.inr (Or.inl (hstray rfl hclosing))
  . next hopening =>
    apply Grammar.Moves.of_skips (by simp)
    intro d hd hstart hlt
    rcases (cases_of_mem_scan hd hstart hlt).2 with ⟨-, heq⟩ | ⟨hphase, hclosing⟩
    . contradiction
    . exact hstray hphase hclosing

/-- What the pass does in the rest of a text: it completes the spans of the brackets that are closed
there and leaves the others open. -/
theorem exists_moves (hopened : ∀ start ∈ opened, start < before.size)
    : ∃ opened' done,
      (grammar o c scope base).Moves (before ++ rest) before.size (before ++ rest).size
          (frames o c scope base opened) (frames o c scope base opened') done
        ∧ (∀ start ∈ opened', start < (before ++ rest).size)
        ∧ done ++ unclosed scope [base] (before ++ rest).size opened'
          = spans o c scope [base] opened before.size rest := by
  induction rest generalizing before opened with
  | nil =>
    rw [List.append_nil]
    exact ⟨opened, [], .refl _ _ _ _, hopened, rfl⟩
  | cons x rest ih =>
    have htext : before ++ ([x] ++ rest) = before ++ [x] ++ rest := by simp
    have hsize : (before ++ [x]).size = before.size + x.utf8Size := by simp
    have hmid : before.size ≤ (before ++ [x]).size := by simp
    have hstop : (before ++ [x]).size ≤ (before ++ [x] ++ rest).size := by simp
    have hcons : before ++ x :: rest = before ++ [x] ++ rest := htext
    rw [hcons]
    -- each character closes the innermost bracket, or it is skipped or opens another one
    rcases closes_or_not c x opened with ⟨rfl, start, outer, rfl⟩ | hx
    . have hstart := hopened start List.mem_cons_self
      have houter : ∀ start ∈ outer, start < (before ++ [x]).size := by
        intro s hs
        have := hopened s (List.mem_cons_of_mem _ hs)
        omega
      rcases ih houter with ⟨opened', done, hmoves, hopened', hdone⟩
      have hclose : (grammar o x scope base).Moves (before ++ ([x] ++ rest)) _ _
          (frames o x scope base (start :: outer)) (frames o x scope base outer) _ :=
        moves_close (by omega)
      rw [htext] at hclose
      refine ⟨opened', _, hclose.trans hmoves hmid hstop, hopened', ?_⟩
      rw [spans_close, ← hsize, ← hdone]
      rfl
    . have hnext := lt_of_mem_opened hopened x o
      rw [← hsize] at hnext
      rcases ih hnext with ⟨opened', done, hmoves, hopened', hdone⟩
      have hother : (grammar o c scope base).Moves (before ++ ([x] ++ rest)) _ _
          (frames o c scope base opened) _ [] :=
        moves_other hx
      rw [htext] at hother
      refine ⟨opened', _, hother.trans hmoves hmid hstop, hopened', ?_⟩
      rw [spans_other hx, ← hsize, ← hdone]
      rfl

theorem spans_frames {textSize : Nat} (hopened : ∀ start ∈ opened, start < textSize)
    : ((frames o c scope base opened).map fun frame => frame.spans textSize none).flatten
      = unclosed scope [base] textSize opened := by
  induction opened with
  | nil => rfl
  | cons start outer ih =>
    rw [List.forall_mem_cons] at hopened
    rw [frames, List.map_cons, List.flatten_cons, ih hopened.2, spans_frame rfl hopened.1]
    rfl

theorem perm_tokenize (text : Text)
    : ((grammar o c scope base).tokenize text).Perm (spans o c scope [base] [] 0 text) := by
  have hopened : ∀ start ∈ ([] : List Nat), start < Text.size [] := nofun
  have hmoves : ∃ opened' done,
      (grammar o c scope base).Moves ([] ++ text) 0 (Text.size ([] ++ text)) []
          (frames o c scope base opened') done
        ∧ (∀ start ∈ opened', start < Text.size ([] ++ text))
        ∧ done ++ unclosed scope [base] (Text.size ([] ++ text)) opened'
          = spans o c scope [base] [] 0 text :=
    exists_moves hopened
  rcases hmoves with ⟨opened', done, hmoves, hopened', hdone⟩
  rw [List.nil_append] at hmoves hopened' hdone
  have hlt : ∀ d ∈ (grammar o c scope base).scan text, d.start < text.size := by
    intro d hd
    rcases exists_of_mem_scan hd with ⟨front, x, tail, rfl, hstart, -⟩
    have := x.utf8Size_pos
    rw [hstart, Text.size_append, Text.size_cons]
    omega
  have hperm := Grammar.Moves.perm_tokenize hmoves hlt
  rw [spans_frames hopened', hdone] at hperm
  exact hperm

theorem starts_tokenize (hne : o ≠ c) (text : Text)
    : ((grammar o c scope base).tokenize text).map (·.start) = occurrences o 0 text := by
  have hranges : (spans o c scope [base] [] 0 text).map (fun found => (found.start, found.stop))
      = matched o c [] 0 text :=
    ranges_spans hne
  have hstarts : ((spans o c scope [base] [] 0 text).map (·.start)).Perm
      (occurrences o 0 text) := by
    have hmap : (spans o c scope [base] [] 0 text).map (·.start)
        = (matched o c [] 0 text).map (·.1) := by
      rw [← hranges, List.map_map]
      rfl
    rw [hmap]
    exact starts_matched
  have hsorted : (((grammar o c scope base).tokenize text).map (·.start)).Pairwise (· ≤ ·) := by
    rw [List.pairwise_map]
    apply (Span.pairwise_le_mergeSort _).imp
    intro a b hle
    rw [Span.le_iff] at hle
    omega
  have hapart : (occurrences o 0 text).Pairwise (· ≤ ·) := by
    apply (areApart_occurrences o 0 text).1.imp
    intro a b hle
    omega
  apply List.Perm.eq_of_pairwise (fun a b _ _ hab hba => Nat.le_antisymm hab hba) hsorted hapart
  exact ((perm_tokenize text).map _).trans hstarts

theorem tokenize_self (text : Text)
    : (grammar o o scope base).tokenize text
      = (pairedInTurn o.utf8Size text.size (occurrences o 0 text)).map
          (fun found => span scope [base] [] found.1 found.2) := by
  have hapart := areApart_occurrences o 0 text
  rw [Nat.zero_add] at hapart
  rcases pairwise_pairedInTurn o.utf8Size_pos hapart with ⟨hpairwise, hbounds⟩
  have hspans : spans o o scope [base] [] 0 text
      = (pairedInTurn o.utf8Size (0 + text.size) (occurrences o 0 text)).map
          (fun found => span scope [base] [] found.1 found.2) :=
    spans_self.1
  rw [Nat.zero_add] at hspans
  have hinOrder : Span.InOrder 0 text.size (spans o o scope [base] [] 0 text) := by
    rw [hspans]
    constructor
    . exact fun _ _ => Nat.zero_le _
    . exact List.forall_mem_map.mpr fun found hfound => (hbounds found hfound).2.1
    . exact List.forall_mem_map.mpr fun found hfound => (hbounds found hfound).2.2
    . rw [List.pairwise_map]
      apply List.Pairwise.imp_of_mem _ hpairwise
      intro a b ha _ hle
      have := (hbounds a ha).2.1
      left
      dsimp only [span]
      omega
  rw [← hspans]
  apply hinOrder.mergeSort_eq
  exact (List.mergeSort_perm _ _).symm.trans (perm_tokenize text)

end Pass

/-- A region that contains itself matches brackets. If the brackets differ, there is one span for
each opening bracket, which reaches as far as the matching with a stack has it, and its scopes count
the spans around it. If the brackets are the same, their occurrences are paired in turn and nothing
is nested. -/
theorem tokenize_matches_brackets (o c : Char) (scope base : String)
    (hbase : ∃ x ∈ base.toList, ¬ isBlank x)
    : ∃ grammar, (source o c scope base).build = .ok grammar ∧ ∀ text : Text,
        (o ≠ c →
          (grammar.tokenize text).map (·.start) = occurrences o 0 text
            ∧ ((grammar.tokenize text).map fun found => (found.start, found.stop)).Perm
                (matched o c [] 0 text)
            ∧ ∀ found ∈ grammar.tokenize text,
                found.scopes
                  = List.replicate ((grammar.tokenize text).countP (·.contains found)) scope
                    ++ [base])
        ∧ (o = c →
          (grammar.tokenize text).map (fun found => (found.start, found.stop))
              = pairedInTurn o.utf8Size text.size (occurrences o 0 text)
            ∧ (∀ found ∈ grammar.tokenize text, found.scopes = [scope, base])
            ∧ (grammar.tokenize text).Pairwise fun a b => a.stop ≤ b.start) := by
  refine ⟨grammar o c scope base, build_source o c scope base hbase, fun text => ⟨?_, ?_⟩⟩
  . intro hne
    have hperm : ((grammar o c scope base).tokenize text).Perm (spans o c scope [base] [] 0 text) :=
      perm_tokenize text
    have hranges : (spans o c scope [base] [] 0 text).map (fun found => (found.start, found.stop))
        = matched o c [] 0 text :=
      ranges_spans hne
    refine ⟨starts_tokenize hne text, ?_, ?_⟩
    . rw [← hranges]
      exact hperm.map _
    . intro found hfound
      have hopened : ∀ start ∈ ([] : List Nat), start < 0 := nofun
      rw [hperm.countP_eq]
      exact countsNesting_spans hopened List.Pairwise.nil found (hperm.mem_iff.mp hfound)
  . rintro rfl
    have hapart := areApart_occurrences o 0 text
    rw [Nat.zero_add] at hapart
    rw [tokenize_self]
    refine ⟨?_, List.forall_mem_map.mpr fun _ _ => rfl, ?_⟩
    . rw [List.map_map]
      exact List.map_id _
    . rw [List.pairwise_map]
      exact (pairwise_pairedInTurn o.utf8Size_pos hapart).1

theorem tokenize_matches_brackets_round
    : ∃ grammar, (source '(' ')' "meta.group" "source.groups").build = .ok grammar
        ∧ (grammar.tokenize "a(b(c)d)e)(".toList).map (·.start) = [1, 3, 10]
        ∧ ((grammar.tokenize "a(b(c)d)e)(".toList).map fun found => (found.start, found.stop)).Perm
            [(3, 6), (1, 8), (10, 11)] := by
  have hbase : ∃ x ∈ "source.groups".toList, ¬ isBlank x := ⟨'s', by decide, by decide⟩
  rcases tokenize_matches_brackets '(' ')' "meta.group" "source.groups" hbase
    with ⟨grammar, hbuild, htext⟩
  rcases (htext "a(b(c)d)e)(".toList).1 (by decide) with ⟨hstarts, hranges, -⟩
  exact ⟨grammar, hbuild, hstarts, hranges⟩

end TextScopes.Brackets
