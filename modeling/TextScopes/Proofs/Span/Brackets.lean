import Mathlib.Data.List.Count
import Mathlib.Data.List.Pairwise
import TextScopes.Proofs.Span.Order

/-!
This module contains the matching of brackets in a text. A stack holds the brackets that are open; a
closing bracket belongs to the innermost of them, and brackets that stay open reach to the end of
the text. Each pair becomes a span whose scopes tell how deep it lies.
-/

namespace TextScopes.Brackets

/-- The offsets of a character in a text that starts at an offset. -/
def occurrences (x : Char) (offset : Nat) : Text → List Nat
  | [] => []
  | y :: rest =>
    let others := occurrences x (offset + y.utf8Size) rest
    if y = x then offset :: others else others

/-- The stretches from an opening bracket through the closing bracket that belongs to it, or to the
end of the text, given the brackets that are open in front of the text, the innermost first. A
closing bracket is ignored where nothing is open. -/
def matched (o c : Char) (opened : List Nat) (offset : Nat) : Text → List (Nat × Nat)
  | [] => opened.map (·, offset)
  | x :: rest =>
    let next := offset + x.utf8Size
    if x = o then matched o c (offset :: opened) next rest
    else if x = c then
      match opened with
      | [] => matched o c [] next rest
      | start :: outer => (start, next) :: matched o c outer next rest
    else matched o c opened next rest

/-- The stretches from the first through the second of some places, from the third through the
fourth, and so on. At each place stands a character of so many bytes. A last one without a partner
reaches to the end of the text. -/
def pairedInTurn (size textStop : Nat) : List Nat → List (Nat × Nat)
  | [] => []
  | [start] => [(start, textStop)]
  | start :: stop :: others => (start, stop + size) :: pairedInTurn size textStop others

section Spans

variable (o c : Char) (scope : String) (base : ScopeStack)

def span (outer : List Nat) (start stop : Nat) : Span :=
  ⟨List.replicate (outer.length + 1) scope ++ base, start, stop⟩

def unclosed (stop : Nat) : List Nat → List Span
  | [] => []
  | start :: outer => span scope base outer start stop :: unclosed stop outer

/-- The spans of all brackets. A character that both opens and closes closes what is open. -/
def spans (opened : List Nat) (offset : Nat) : Text → List Span
  | [] => unclosed scope base offset opened
  | x :: rest =>
    let next := offset + x.utf8Size
    if x = c then
      match opened with
      | [] => spans (if x = o then [offset] else []) next rest
      | start :: outer => span scope base outer start next :: spans outer next rest
    else spans (if x = o then offset :: opened else opened) next rest

variable {o c scope base} {opened outer : List Nat} {offset start : Nat} {x : Char} {rest : Text}

theorem spans_close
    : spans o c scope base (start :: outer) offset (c :: rest)
      = span scope base outer start (offset + c.utf8Size)
        :: spans o c scope base outer (offset + c.utf8Size) rest := by
  simp [spans]

theorem spans_other (h : x = c → opened = [])
    : spans o c scope base opened offset (x :: rest)
      = spans o c scope base (if x = o then offset :: opened else opened) (offset + x.utf8Size) rest
    := by
  by_cases hx : x = c
  . cases h hx
    simp [spans, hx]
  . simp [spans, hx]

theorem closes_or_not (c x : Char) (opened : List Nat)
    : (x = c ∧ ∃ start outer, opened = start :: outer) ∨ (x = c → opened = []) := by
  cases opened with
  | nil => exact Or.inr fun _ => rfl
  | cons start outer =>
    by_cases hx : x = c
    . exact Or.inl ⟨hx, start, outer, rfl⟩
    . exact Or.inr fun heq => absurd heq hx

theorem lt_of_mem_opened (h : ∀ start ∈ opened, start < offset) (x o : Char)
    : ∀ start ∈ (if x = o then offset :: opened else opened), start < offset + x.utf8Size := by
  have hpos := x.utf8Size_pos
  intro start hstart
  split at hstart
  . rcases List.mem_cons.mp hstart with rfl | hstart
    . omega
    . have := h start hstart
      omega
  . have := h start hstart
    omega

/-- Where spans lie behind an offset, apart from the brackets that are open there. -/
def LieBehind (opened : List Nat) (offset : Nat) (spans : List Span) : Prop :=
  ∀ found ∈ spans, found.start < found.stop ∧ offset ≤ found.stop
    ∧ (found.start ∈ opened ∨ offset ≤ found.start)

theorem lieBehind_unclosed (hopened : ∀ start ∈ opened, start < offset)
    : LieBehind opened offset (unclosed scope base offset opened) := by
  induction opened with
  | nil => exact nofun
  | cons start outer ih =>
    intro found hfound
    rcases List.mem_cons.mp hfound with rfl | hfound
    . exact ⟨hopened start List.mem_cons_self, Nat.le_refl _, Or.inl List.mem_cons_self⟩
    . have h := ih (fun s hs => hopened s (List.mem_cons_of_mem _ hs)) found hfound
      exact ⟨h.1, h.2.1, h.2.2.imp_left (List.mem_cons_of_mem _)⟩

theorem lieBehind_spans (hopened : ∀ start ∈ opened, start < offset)
    : LieBehind opened offset (spans o c scope base opened offset rest) := by
  induction rest generalizing opened offset with
  | nil => exact lieBehind_unclosed hopened
  | cons x rest ih =>
    have hpos := x.utf8Size_pos
    rcases closes_or_not c x opened with ⟨rfl, start, outer, rfl⟩ | hx
    . have hstart := hopened start List.mem_cons_self
      have houter : ∀ s ∈ outer, s < offset + x.utf8Size := by
        intro s hs
        have := hopened s (List.mem_cons_of_mem _ hs)
        omega
      rw [spans_close]
      intro found hfound
      rcases List.mem_cons.mp hfound with rfl | hfound
      . dsimp only [span]
        exact ⟨by omega, by omega, Or.inl List.mem_cons_self⟩
      . rcases ih houter found hfound with ⟨hlt, hstop, hfound⟩
        exact ⟨hlt, by omega, hfound.imp (List.mem_cons_of_mem _) (by omega)⟩
    . rw [spans_other hx]
      intro found hfound
      rcases ih (lt_of_mem_opened hopened x o) found hfound with ⟨hlt, hstop, hfound⟩
      refine ⟨hlt, by omega, ?_⟩
      rcases hfound with hfound | hfound
      . split at hfound
        . rcases List.mem_cons.mp hfound with hfound | hfound
          . exact Or.inr (Nat.le_of_eq hfound.symm)
          . exact Or.inl hfound
        . exact Or.inl hfound
      . exact Or.inr (by omega)

theorem countP_unclosed (bound : Nat)
    : (unclosed scope base offset opened).countP (·.start < bound)
      = opened.countP (· < bound) := by
  induction opened with
  | nil => rfl
  | cons start outer ih =>
    rw [unclosed, List.countP_cons, List.countP_cons, ih]
    rfl

theorem countP_spans {bound : Nat} (hbound : bound ≤ offset)
    : (spans o c scope base opened offset rest).countP (·.start < bound)
      = opened.countP (· < bound) := by
  induction rest generalizing opened offset with
  | nil => exact countP_unclosed bound
  | cons x rest ih =>
    have hnext : bound ≤ offset + x.utf8Size := by omega
    rcases closes_or_not c x opened with ⟨rfl, start, outer, rfl⟩ | hx
    . rw [spans_close, List.countP_cons, List.countP_cons, ih hnext]
      rfl
    . rw [spans_other hx, ih hnext]
      split
      . rw [List.countP_cons_of_neg (by simpa using hbound)]
      . rfl

/-- Whether the scopes of each span repeat one scope once for every span around it and itself. -/
def CountsNesting (scope : String) (base : ScopeStack) (spans : List Span) : Prop :=
  ∀ found ∈ spans,
    found.scopes = List.replicate (spans.countP (·.contains found)) scope ++ base

theorem CountsNesting.cons {stop : Nat} {spans : List Span} (h : CountsNesting scope base spans)
    (houter : ∀ s ∈ outer, s < start) (hstop : start < stop) (hspans : LieBehind outer stop spans)
    (hcount : spans.countP (·.start < start) = outer.length)
    : CountsNesting scope base (span scope base outer start stop :: spans) := by
  intro found hfound
  rw [List.countP_cons]
  rcases List.mem_cons.mp hfound with rfl | hfound
  -- as the span stops where others still go on, just those around it start in front of it
  . have hcontains : spans.countP (·.contains (span scope base outer start stop))
        = spans.countP (·.start < start) := by
      apply List.countP_congr
      intro other hother
      rcases hspans other hother with ⟨-, hle, hstart⟩
      rw [Span.contains_iff, decide_eq_true_eq]
      dsimp only [span]
      rcases hstart with hstart | hstart
      . have := houter other.start hstart
        omega
      . omega
    have hself : (span scope base outer start stop).contains (span scope base outer start stop) :=
      Span.contains_iff.mpr ⟨Nat.le_refl _, Nat.le_refl _⟩
    rw [hcontains, hcount, if_pos hself]
    rfl
  -- no span that starts behind or goes on longer lies inside it
  . have hnot : ¬ (span scope base outer start stop).contains found := by
      rcases hspans found hfound with ⟨hlt, hle, hstart⟩
      rw [Span.contains_iff]
      dsimp only [span]
      rcases hstart with hstart | hstart
      . have := houter found.start hstart
        omega
      . omega
    rw [if_neg hnot]
    exact h found hfound

theorem countP_outer (houter : ∀ s ∈ outer, s < start)
    : outer.countP (· < start) = outer.length := by
  rw [List.countP_eq_length]
  intro s hs
  exact decide_eq_true (houter s hs)

theorem countsNesting_unclosed (hopened : ∀ start ∈ opened, start < offset)
    (hsorted : opened.Pairwise (· > ·))
    : CountsNesting scope base (unclosed scope base offset opened) := by
  induction opened with
  | nil => exact nofun
  | cons start outer ih =>
    rw [List.pairwise_cons] at hsorted
    rw [List.forall_mem_cons] at hopened
    exact (ih hopened.2 hsorted.2).cons hsorted.1 hopened.1 (lieBehind_unclosed hopened.2)
      ((countP_unclosed start).trans (countP_outer hsorted.1))

theorem countsNesting_spans (hopened : ∀ start ∈ opened, start < offset)
    (hsorted : opened.Pairwise (· > ·))
    : CountsNesting scope base (spans o c scope base opened offset rest) := by
  induction rest generalizing opened offset with
  | nil => exact countsNesting_unclosed hopened hsorted
  | cons x rest ih =>
    rcases closes_or_not c x opened with ⟨rfl, start, outer, rfl⟩ | hx
    . rw [List.pairwise_cons] at hsorted
      rw [List.forall_mem_cons] at hopened
      have houter : ∀ s ∈ outer, s < offset + x.utf8Size := by
        intro s hs
        have := hopened.2 s hs
        omega
      rw [spans_close]
      exact (ih houter hsorted.2).cons hsorted.1 (by omega) (lieBehind_spans houter)
        ((countP_spans (by omega)).trans (countP_outer hsorted.1))
    . rw [spans_other hx]
      apply ih (lt_of_mem_opened hopened x o)
      split
      . exact List.pairwise_cons.mpr ⟨hopened, hsorted⟩
      . exact hsorted

theorem ranges_unclosed
    : (unclosed scope base offset opened).map (fun found => (found.start, found.stop))
      = opened.map (·, offset) := by
  induction opened with
  | nil => rfl
  | cons start outer ih =>
    rw [unclosed, List.map_cons, List.map_cons, ih]
    rfl

/-- The spans of all brackets lie where the matching has them. -/
theorem ranges_spans (hne : o ≠ c)
    : (spans o c scope base opened offset rest).map (fun found => (found.start, found.stop))
      = matched o c opened offset rest := by
  induction rest generalizing opened offset with
  | nil => exact ranges_unclosed
  | cons x rest ih =>
    by_cases hopening : x = o
    . have hx : x ≠ c := fun heq => hne (hopening.symm.trans heq)
      rw [spans_other (fun heq => absurd heq hx), ih]
      simp [matched, hopening]
    . by_cases hclosing : x = c
      . subst hclosing
        cases opened with
        | nil =>
          rw [spans_other (fun _ => rfl), ih]
          simp [matched, hopening]
        | cons start outer =>
          rw [spans_close, List.map_cons, ih]
          simp [matched, hopening, span]
      . rw [spans_other (fun heq => absurd heq hclosing), ih]
        simp [matched, hopening, hclosing]

theorem starts_matched
    : ((matched o c opened offset rest).map (·.1)).Perm (opened ++ occurrences o offset rest) := by
  induction rest generalizing opened offset with
  | nil => simp [matched, occurrences, Function.comp_def]
  | cons x rest ih =>
    by_cases hopening : x = o
    . have h : ((matched o c (offset :: opened) (offset + x.utf8Size) rest).map (·.1)).Perm _ := ih
      simp only [matched, occurrences, hopening, if_true] at h ⊢
      exact h.trans List.perm_middle.symm
    . by_cases hclosing : x = c
      . subst hclosing
        cases opened with
        | nil =>
          have h : ((matched o x [] (offset + x.utf8Size) rest).map (·.1)).Perm _ := ih
          rw [List.nil_append] at h
          simpa [matched, occurrences, hopening] using h
        | cons start outer => simpa [matched, occurrences, hopening] using ih
      . simpa [matched, occurrences, hopening, hclosing] using ih

/-- Whether characters of so many bytes can stand at some places between two offsets, one behind the
other. -/
def AreApart (size start stop : Nat) (places : List Nat) : Prop :=
  places.Pairwise (· + size ≤ ·) ∧ ∀ place ∈ places, start ≤ place ∧ place + size ≤ stop

theorem areApart_occurrences (x : Char) (offset : Nat) (text : Text)
    : AreApart x.utf8Size offset (offset + text.size) (occurrences x offset text) := by
  induction text generalizing offset with
  | nil => exact ⟨List.Pairwise.nil, nofun⟩
  | cons y rest ih =>
    rcases ih (offset + y.utf8Size) with ⟨hapart, hbounds⟩
    rw [Nat.add_assoc] at hbounds
    unfold occurrences
    dsimp only
    split
    . next hy =>
      subst hy
      constructor
      . rw [List.pairwise_cons]
        exact ⟨fun place hplace => (hbounds place hplace).1, hapart⟩
      . rw [List.forall_mem_cons, Text.size_cons]
        refine ⟨⟨Nat.le_refl _, by omega⟩, ?_⟩
        intro place hplace
        have := hbounds place hplace
        omega
    . refine ⟨hapart, ?_⟩
      intro place hplace
      have := hbounds place hplace
      rw [Text.size_cons]
      omega

theorem pairwise_pairedInTurn {size start stop : Nat} {places : List Nat} (hsize : 0 < size)
    (h : AreApart size start stop places)
    : (pairedInTurn size stop places).Pairwise (fun a b => a.2 ≤ b.1)
      ∧ ∀ found ∈ pairedInTurn size stop places,
          start ≤ found.1 ∧ found.1 < found.2 ∧ found.2 ≤ stop := by
  fun_induction pairedInTurn size stop places generalizing start with
  | case1 => exact ⟨List.Pairwise.nil, nofun⟩
  | case2 first =>
    have := h.2 first List.mem_cons_self
    refine ⟨List.pairwise_singleton _ _, ?_⟩
    intro found hfound
    rw [List.mem_singleton] at hfound
    subst hfound
    dsimp only
    omega
  | case3 first second others ih =>
    rcases h with ⟨hapart, hbounds⟩
    simp only [List.pairwise_cons, List.forall_mem_cons] at hapart hbounds
    have hothers : AreApart size (second + size) stop others :=
      ⟨hapart.2.2, fun place hplace => ⟨hapart.2.1 place hplace, (hbounds.2.2 place hplace).2⟩⟩
    rcases ih hothers with ⟨hpairwise, hin⟩
    have := hapart.1.1
    refine ⟨List.pairwise_cons.mpr ⟨fun found hfound => (hin found hfound).1, hpairwise⟩, ?_⟩
    rw [List.forall_mem_cons]
    dsimp only
    refine ⟨by omega, ?_⟩
    intro found hfound
    have := hin found hfound
    omega

theorem spans_self
    : spans o o scope base [] offset rest
        = (pairedInTurn o.utf8Size (offset + rest.size) (occurrences o offset rest)).map
            (fun found => span scope base [] found.1 found.2)
      ∧ ∀ start, spans o o scope base [start] offset rest
        = (pairedInTurn o.utf8Size (offset + rest.size) (start :: occurrences o offset rest)).map
            (fun found => span scope base [] found.1 found.2) := by
  induction rest generalizing offset with
  | nil => exact ⟨rfl, fun _ => rfl⟩
  | cons x rest ih =>
    rcases @ih (offset + x.utf8Size) with ⟨hnone, hone⟩
    rw [Nat.add_assoc] at hnone hone
    by_cases hx : x = o
    . subst hx
      constructor
      . rw [spans_other (fun _ => rfl), if_pos rfl, hone]
        simp [occurrences]
      . intro start
        rw [spans_close, hnone]
        simp [occurrences, pairedInTurn]
    . have hskip (opened : List Nat)
          : spans o o scope base opened offset (x :: rest)
            = spans o o scope base opened (offset + x.utf8Size) rest := by
        rw [spans_other (fun heq => absurd heq hx), if_neg hx]
      constructor
      . rw [hskip, hnone]
        simp [occurrences, hx]
      . intro start
        rw [hskip, hone]
        simp [occurrences, hx]

end Spans

end TextScopes.Brackets
