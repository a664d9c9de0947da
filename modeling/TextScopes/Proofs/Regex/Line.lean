import Mathlib.Data.Nat.Bitwise
import TextScopes.Regex.Basic

/-!
This module contains patterns that stay in their line: they read no line feed and tell the end of a
text from the end of a line in no way. Such a pattern matches a text alike whether the text stands
alone or between other lines.
-/

namespace TextScopes.Regex

/-- What stands around a text: the character in front of it and the number of bytes there, and the
text behind it. -/
structure Surroundings where
  before : Option Char
  offset : Nat
  after : Text

/-- Whether a text with these surroundings consists of whole lines. -/
structure Surroundings.AreLines (around : Surroundings) : Prop where
  before : around.before = none ∨ around.before = some '\n'
  after : around.after = [] ∨ ∃ rest, around.after = '\n' :: rest

def Cursor.within (around : Surroundings) (cursor : Cursor) : Cursor :=
  ⟨cursor.prev.or around.before, cursor.rest ++ around.after, cursor.offset + around.offset⟩

/-- A match in progress, seen from outside the text. -/
def Thread.within (around : Surroundings) (t : Thread) : Thread :=
  ⟨t.cursor.within around,
    t.groups.map fun (index, start, stop) => (index, start + around.offset, stop + around.offset),
    t.passed⟩

def Offsets.shift (offset : Nat) (s : Offsets) : Offsets := ⟨s.bits <<< offset⟩

def Iteration.within (around : Surroundings) (found : Iteration) : Iteration :=
  ⟨found.entered.map (Offsets.shift around.offset), found.left.map (Thread.within around)⟩

/-- Whether a condition cannot tell the end of a text from the end of a line. -/
def Look.isOfLine : Look → Bool
  | .textStart | .textEnd | .anyLineStart | .anyLineEnd => false
  | _ => true

namespace Expr

mutual

/-- Whether an expression reads no line feed and cannot tell the end of a text from the end of a
line. A body repeated without bound must read one character, so that the length of the text does not
bound the repetition. -/
def staysInLine : Expr → Bool
  | empty => true
  | literal chars => !chars.contains '\n'
  | set chars => !chars.contains '\n'
  | look condition => condition.isOfLine
  | repetition _ most _ body => body.staysInLine && (most.isSome || body.charsOf?.isSome)
  | group _ body => body.staysInLine
  | concat parts => allStayInLine parts
  | alternation branches => allStayInLine branches
termination_by structural e => e

def allStayInLine : List Expr → Bool
  | [] => true
  | e :: es => e.staysInLine && allStayInLine es
termination_by structural es => es

end

end Expr

theorem Look.holds_of_line {look : Look} (hlook : look.isOfLine)
    {prev prev' next next' : Option Char}
    (hprev : prev' = prev ∨ (prev = none ∧ prev' = some '\n'))
    (hnext : next' = next ∨ (next = none ∧ next' = some '\n'))
    : look.holds prev' next' = look.holds prev next := by
  have hword : isWord '\n' = false := by decide
  have hascii : isAsciiWord '\n' = false := by decide
  rcases hprev with rfl | ⟨rfl, rfl⟩
  . rcases hnext with rfl | ⟨rfl, rfl⟩
    . rfl
    . cases look <;> simp_all [Look.holds, Look.isOfLine]
  . rcases hnext with rfl | ⟨rfl, rfl⟩
    . cases look <;> simp_all [Look.holds, Look.isOfLine]
    . cases look <;> simp_all [Look.holds, Look.isOfLine]

namespace Surroundings.AreLines

variable {around : Surroundings} (haround : around.AreLines)
include haround

theorem holds {look : Look} (hlook : look.isOfLine) (cursor : Cursor)
    : look.holds (cursor.within around).prev (cursor.within around).rest.head?
      = look.holds cursor.prev cursor.rest.head? := by
  apply Look.holds_of_line hlook
  . unfold Cursor.within
    cases hprev : cursor.prev with
    | none => simpa using haround.before
    | some c => simp
  . unfold Cursor.within
    cases hrest : cursor.rest with
    | nil =>
      rcases haround.after with hafter | ⟨rest, hafter⟩
      . simp [hafter]
      . simp [hafter]
    | cons c rest => simp

theorem read? {p : Char → Bool} (hp : p '\n' = false) (t : Thread)
    : (t.within around).read? p = (t.read? p).map (Thread.within around) := by
  rcases t with ⟨⟨prev, rest, offset⟩, groups, passed⟩
  cases rest with
  | nil =>
    rcases haround.after with hafter | ⟨rest, hafter⟩
    . simp [Thread.read?, Thread.within, Cursor.within, hafter]
    . simp [Thread.read?, Thread.within, Cursor.within, hafter, hp]
  | cons c rest =>
    cases hc : p c with
    | true => simp [Thread.read?, Thread.within, Cursor.within, hc, Nat.add_right_comm]
    | false => simp [Thread.read?, Thread.within, Cursor.within, hc]

theorem readAll? {chars : List Char} (hchars : chars.contains '\n' = false) (t : Thread)
    : (t.within around).readAll? chars = (t.readAll? chars).map (Thread.within around) := by
  induction chars generalizing t with
  | nil => rfl
  | cons c chars ih =>
    simp only [List.contains_cons, Bool.or_eq_false_iff] at hchars
    have hc : ('\n' == c) = false := hchars.1
    rw [Thread.readAll?, Thread.readAll?, haround.read? hc]
    cases t.read? (· == c) with
    | none => rfl
    | some next => exact ih hchars.2 next

end Surroundings.AreLines

theorem Offsets.contains_shift {s : Offsets} {offset a : Nat}
    : (s.shift offset).contains (a + offset) = s.contains a := by
  simp [Offsets.shift, Offsets.contains]

theorem Offsets.insert_shift {s : Offsets} {offset a : Nat}
    : (s.shift offset).insert (a + offset) = (s.insert a).shift offset := by
  simp [Offsets.shift, Offsets.insert, Nat.shiftLeft_add, Nat.shiftLeft_or_distrib]

section Moving

variable {around : Surroundings}

theorem Thread.within_pass (address : Address) (t : Thread)
    : (t.pass address).within around = (t.within around).pass address := rfl

theorem Thread.distinct.go_within {seen : Offsets} {threads : List Thread}
    : go (seen.shift around.offset) (threads.map (Thread.within around))
      = (go seen threads).map (Thread.within around) := by
  fun_induction go seen threads with
  | case1 => rfl
  | case2 seen t rest hseen ih =>
    rw [List.map_cons, go, if_pos]
    . exact ih
    . exact Offsets.contains_shift.trans hseen
  | case3 seen t rest hseen ih =>
    rw [List.map_cons, go, if_neg, List.map_cons, ← ih, ← Offsets.insert_shift]
    . rfl
    . rw [Bool.not_eq_true] at *
      exact Offsets.contains_shift.trans hseen

theorem Thread.distinct_within {threads : List Thread}
    : distinct (threads.map (Thread.within around))
      = (distinct threads).map (Thread.within around) := by
  rcases threads with _ | ⟨t, _ | ⟨s, rest⟩⟩
  . rfl
  . rfl
  . have hempty : (∅ : Offsets) = (∅ : Offsets).shift around.offset := by
      simp [Offsets.shift, EmptyCollection.emptyCollection]
    have hgo : distinct.go ((∅ : Offsets).shift around.offset)
        ((t :: s :: rest).map (Thread.within around)) = _ := distinct.go_within
    rw [← hempty] at hgo
    exact hgo

theorem each_within {body : Thread → List Thread} {threads : List Thread}
    (hbody : ∀ t, body (t.within around) = (body t).map (Thread.within around))
    : each body (threads.map (Thread.within around))
      = (each body threads).map (Thread.within around) := by
  have hflat (threads : List Thread) : (threads.map (Thread.within around)).flatMap body
      = (threads.flatMap body).map (Thread.within around) := by
    rw [List.flatMap_map, List.map_flatMap]
    simp only [hbody]
  rcases threads with _ | ⟨t, _ | ⟨s, rest⟩⟩
  . rfl
  . exact hbody t
  . simp only [each, List.map_cons]
    rw [← Thread.distinct_within, ← hflat]
    rfl

variable {body : Nat → Thread → List Thread} {copy : Nat → Nat} {address : Address}

theorem exactly_within
    (hbody : ∀ copy t, body copy (t.within around) = (body copy t).map (Thread.within around))
    {done times : Nat} {threads : List Thread}
    : exactly body done times (threads.map (Thread.within around))
      = (exactly body done times threads).map (Thread.within around) := by
  induction times generalizing done threads with
  | zero => simp [exactly]
  | succ times ih =>
    cases threads with
    | nil => rfl
    | cons t rest =>
      simp only [exactly, List.map_cons]
      rw [← List.map_cons, each_within (hbody (done + 1)), ih]

namespace Iteration

theorem leave_within (found : Iteration) (t : Thread)
    : (found.leave t).within around = (found.within around).leave (t.within around) := rfl

theorem hasEntered_within (found : Iteration) (copy : Nat) (t : Thread)
    : (found.within around).hasEntered copy (t.within around).offset
      = found.hasEntered copy t.offset := by
  unfold hasEntered within
  rw [List.getElem?_map]
  cases found.entered[copy]? with
  | none => rfl
  | some s => exact Offsets.contains_shift

theorem enter.go_within (offset copy : Nat) (entered : List Offsets)
    : (go offset copy entered).map (Offsets.shift around.offset)
      = go (offset + around.offset) copy (entered.map (Offsets.shift around.offset)) := by
  have hempty : (∅ : Offsets).shift around.offset = ∅ := by
    simp [Offsets.shift, EmptyCollection.emptyCollection]
  fun_induction go offset copy entered with
  | case1 => simp only [go, List.map_cons, List.map_nil, ← Offsets.insert_shift, hempty]
  | case2 => simp only [go, List.map_cons, Offsets.insert_shift]
  | case3 copy ih =>
    rw [List.map_cons, ih, hempty]
    rfl
  | case4 copy s rest ih => simp only [go, List.map_cons, ih]

theorem enter_within (found : Iteration) (copy : Nat) (t : Thread)
    : (found.enter copy t.offset).within around
      = (found.within around).enter copy (t.within around).offset := by
  unfold enter within
  rw [enter.go_within]
  rfl

end Iteration

theorem foldl_within {add add' : Iteration → Thread → Iteration}
    (hadd : ∀ t found, add' (found.within around) (t.within around) = (add found t).within around)
    (threads : List Thread) (found : Iteration)
    : (threads.map (Thread.within around)).foldl add' (found.within around)
      = (threads.foldl add found).within around := by
  induction threads generalizing found with
  | nil => rfl
  | cons t rest ih =>
    rw [List.map_cons, List.foldl_cons, List.foldl_cons, hadd]
    exact ih _

theorem iterate_within
    (hbody : ∀ copy t, body copy (t.within around) = (body copy t).map (Thread.within around))
    {greedy : Bool} {times : Nat} (t : Thread) (found : Iteration)
    : iterate body copy greedy address times (t.within around) (found.within around)
      = (iterate body copy greedy address times t found).within around := by
  induction times generalizing t found with
  | zero => rfl
  | succ times ih =>
    rw [iterate, iterate]
    dsimp only
    rw [found.hasEntered_within]
    have hpassed : (t.within around).passed = t.passed := rfl
    rw [hpassed]
    split
    . rfl
    . rw [← Thread.within_pass, ← Iteration.enter_within, hbody]
      cases greedy with
      | true =>
        simp only [if_true]
        rw [foldl_within ih]
        rfl
      | false =>
        simp only [Bool.false_eq_true, if_false]
        rw [← Iteration.leave_within, foldl_within ih]

theorem iterateEach_within
    (hbody : ∀ copy t, body copy (t.within around) = (body copy t).map (Thread.within around))
    {greedy : Bool} {times : Nat} {threads : List Thread}
    : iterateEach body copy greedy address times (threads.map (Thread.within around))
      = (iterateEach body copy greedy address times threads).map (Thread.within around) := by
  have hempty : (⟨[], []⟩ : Iteration) = (⟨[], []⟩ : Iteration).within around := rfl
  unfold iterateEach
  rw [← Thread.distinct_within, hempty, foldl_within (iterate_within hbody),
    ← hempty, List.map_reverse]
  rfl

theorem runs_within (haround : around.AreLines) {chars : CharSet}
    (hchars : chars.contains '\n' = false) {times : Nat} (t : Thread)
    : runs chars copy address times (t.within around)
      = (runs chars copy address times t).map (Thread.within around) := by
  induction times generalizing t with
  | zero => rfl
  | succ times ih =>
    rw [runs, runs, ← Thread.within_pass, haround.read? hchars]
    cases (t.pass (0 :: copy (times + 1) :: address)).read? chars.contains with
    | none => rfl
    | some next =>
      rw [List.map_cons, ← ih]
      rfl

theorem length_rest_of_read? {p : Char → Bool} {t next : Thread} (h : t.read? p = some next)
    : next.cursor.rest.length + 1 = t.cursor.rest.length := by
  unfold Thread.read? at h
  split at h
  . contradiction
  . next c rest hrest =>
    split at h
    . cases h
      rw [hrest, List.length_cons]
    . contradiction

theorem runs_eq_runs {chars : CharSet} {least times times' : Nat} {t : Thread}
    (htimes : t.cursor.rest.length < times) (htimes' : t.cursor.rest.length < times')
    : runs chars (fun _ => least) address times t = runs chars (fun _ => least) address times' t
    := by
  -- each step reads a character, so that neither bound is reached before the text ends
  induction times generalizing times' t with
  | zero => omega
  | succ times ih =>
    cases times' with
    | zero => omega
    | succ times' =>
      rw [runs, runs]
      split
      . next next hnext =>
        have hlength := length_rest_of_read? hnext
        have hpass : (t.pass (0 :: least :: address)).cursor = t.cursor := rfl
        rw [hpass] at hlength
        have hrest : runs chars (fun _ => least) address times next
            = runs chars (fun _ => least) address times' next := ih (by omega) (by omega)
        rw [hrest]
      . rfl

theorem exactly_of_read? {chars : CharSet}
    (hchars : ∀ copy t, body copy t = (t.read? chars.contains).toList) (done times : Nat)
    (t : Thread)
    : exactly body done times [t] = [] ∧ times ≠ 0
      ∨ ∃ s, exactly body done times [t] = [s] ∧ s.cursor.rest.length ≤ t.cursor.rest.length := by
  induction times generalizing done t with
  | zero => exact Or.inr ⟨t, rfl, Nat.le_refl _⟩
  | succ times ih =>
    have hstep : exactly body done (times + 1) [t]
        = exactly body (done + 1) times (body (done + 1) t) := rfl
    rw [hstep, hchars]
    cases hread : t.read? chars.contains with
    | none =>
      left
      cases times with
      | zero => exact ⟨rfl, Nat.succ_ne_zero 0⟩
      | succ times => exact ⟨rfl, Nat.succ_ne_zero _⟩
    | some next =>
      have hlength := length_rest_of_read? hread
      rcases ih (done + 1) next with ⟨hnil, -⟩ | ⟨s, hs, hle⟩
      . exact Or.inl ⟨hnil, Nat.succ_ne_zero times⟩
      . exact Or.inr ⟨s, hs, by omega⟩

theorem repeated_within (haround : around.AreLines)
    (hbody : ∀ copy t, body copy (t.within around) = (body copy t).map (Thread.within around))
    {chars : Option CharSet} {reads greedy : Bool} {least : Nat} {most : Option Nat}
    (hchars : ∀ set, chars = some set →
      set.contains '\n' = false ∧ ∀ copy t, body copy t = (t.read? set.contains).toList)
    (hmost : most.isSome || chars.isSome) (t : Thread)
    : repeated body chars reads greedy least most address (t.within around)
      = (repeated body chars reads greedy least most address t).map (Thread.within around) := by
  have hexactly : exactly body 0 least ([t].map (Thread.within around))
      = (exactly body 0 least [t]).map (Thread.within around) := exactly_within hbody
  have hlength : t.cursor.rest.length ≤ (t.within around).cursor.rest.length := by
    simp [Thread.within, Cursor.within]
  rw [List.map_singleton] at hexactly
  unfold repeated
  rw [hexactly]
  cases chars with
  | none =>
    cases most with
    | none => contradiction
    | some m => exact iterateEach_within hbody
  | some set =>
    rcases hchars set rfl with ⟨hset, hread⟩
    -- one character at a time: the text ends first, or the repetition goes on as a run
    rcases exactly_of_read? hread 0 least t with ⟨hnil, hleast⟩ | ⟨s, hs, hle⟩
    . rw [hnil]
      cases most with
      | none => simp [hleast, iterateEach, Thread.distinct]
      | some m => exact iterateEach_within hbody
    . rw [hs]
      have hpassed : (s.within around).passed = s.passed := rfl
      cases most with
      | none =>
        have hruns : runs set (fun _ => least) address ((t.within around).cursor.rest.length + 2) s
            = runs set (fun _ => least) address (t.cursor.rest.length + 2) s :=
          runs_eq_runs (by omega) (by omega)
        simp only [List.map_singleton, hpassed, runs_within haround hset, hruns, Nat.succ_ne_zero,
          ne_eq, not_false_eq_true, true_and]
        split
        . rfl
        . cases greedy with
          | true => simp only [if_true, List.map_reverse]
          | false => rfl
      | some m =>
        simp only [List.map_singleton, hpassed, runs_within haround hset]
        split
        . rfl
        . cases greedy with
          | true => simp only [if_true, List.map_reverse]
          | false => rfl

end Moving

theorem contains_singleton (c d : Char) : (CharSet.singleton c).contains d = (d == c) := by
  have heq : d = c ↔ d.toNat = c.toNat := by
    rw [Char.ext_iff, UInt32.ext_iff]
    rfl
  rw [Bool.eq_iff_iff, beq_iff_eq, heq]
  simp only [CharSet.contains, CharSet.singleton, CharSet.range, CharSet.covers]
  split
  . simp
    omega
  . split
    . simp
      omega
    . simp
      omega

theorem ends_of_charsOf? {body : Expr} {chars : CharSet} (h : body.charsOf? = some chars)
    (address : Address) (t : Thread) : ends body address t = (t.read? chars.contains).toList := by
  unfold Expr.charsOf? at h
  split at h
  . next c =>
    cases h
    have hcontains : (CharSet.singleton c).contains = (· == c) := by
      funext d
      exact contains_singleton c d
    rw [hcontains]
    unfold ends Thread.readAll?
    cases t.read? (· == c) with
    | none => rfl
    | some next => rfl
  . cases h
    rfl
  . contradiction

theorem contains_of_staysInLine {body : Expr} {chars : CharSet} (hline : body.staysInLine)
    (h : body.charsOf? = some chars) : chars.contains '\n' = false := by
  unfold Expr.charsOf? at h
  split at h
  . next c =>
    cases h
    rw [contains_singleton]
    simpa [Expr.staysInLine] using hline
  . cases h
    simpa [Expr.staysInLine] using hline
  . contradiction

mutual

/-- A pattern that stays in its line matches alike wherever the line stands. -/
theorem ends_within {around : Surroundings} (haround : around.AreLines) (e : Expr)
    (he : e.staysInLine) (address : Address) (t : Thread)
    : ends e address (t.within around) = (ends e address t).map (Thread.within around) := by
  match e with
  | .empty => rfl
  | .literal chars =>
    have hchars : chars.contains '\n' = false := by simpa [Expr.staysInLine] using he
    rw [ends, ends, haround.readAll? hchars]
    cases t.readAll? chars with
    | none => rfl
    | some next => rfl
  | .set chars =>
    have hchars : chars.contains '\n' = false := by simpa [Expr.staysInLine] using he
    rw [ends, ends, haround.read? hchars]
    cases t.read? chars.contains with
    | none => rfl
    | some next => rfl
  | .look look =>
    have hlook : look.isOfLine := by simpa [Expr.staysInLine] using he
    have hholds := haround.holds hlook t.cursor
    have hcursor : (t.within around).cursor = t.cursor.within around := rfl
    rw [ends, ends, hcursor, hholds]
    split
    . rfl
    . rfl
  | .group index body =>
    have hbody : body.staysInLine := by simpa [Expr.staysInLine] using he
    rw [ends, ends, ends_within haround body hbody, List.map_map, List.map_map]
    rfl
  | .concat parts =>
    have hparts : Expr.allStayInLine parts := by simpa [Expr.staysInLine] using he
    exact endsAll_within haround parts hparts address 0 [t]
  | .alternation branches =>
    have hbranches : Expr.allStayInLine branches := by simpa [Expr.staysInLine] using he
    have hpassed : (t.within around).passed = t.passed := rfl
    rw [ends, ends, hpassed]
    split
    . rfl
    . rw [← Thread.within_pass, endsAny_within haround branches hbranches,
        Thread.distinct_within]
  | .repetition least most greedy body =>
    have hrepetition : body.staysInLine ∧ (most.isSome || body.charsOf?.isSome) := by
      simpa [Expr.staysInLine] using he
    rw [ends, ends]
    apply repeated_within haround
    . intro copy t
      exact ends_within haround body hrepetition.1 (1 :: copy :: address) t
    . intro chars hchars
      exact ⟨contains_of_staysInLine hrepetition.1 hchars,
        fun copy t => ends_of_charsOf? hchars (1 :: copy :: address) t⟩
    . exact hrepetition.2
termination_by structural e

theorem endsAll_within {around : Surroundings} (haround : around.AreLines) (parts : List Expr)
    (hparts : Expr.allStayInLine parts) (address : Address) (index : Nat) (threads : List Thread)
    : endsAll parts address index (threads.map (Thread.within around))
      = (endsAll parts address index threads).map (Thread.within around) := by
  match parts with
  | [] => rfl
  | part :: rest =>
    simp only [Expr.allStayInLine, Bool.and_eq_true] at hparts
    rw [endsAll, endsAll, each_within (ends_within haround part hparts.1 (index :: address)),
      endsAll_within haround rest hparts.2]
termination_by structural parts

theorem endsAny_within {around : Surroundings} (haround : around.AreLines) (branches : List Expr)
    (hbranches : Expr.allStayInLine branches) (address : Address) (index : Nat) (t : Thread)
    : endsAny branches address index (t.within around)
      = (endsAny branches address index t).map (Thread.within around) := by
  match branches with
  | [] => rfl
  | branch :: rest =>
    simp only [Expr.allStayInLine, Bool.and_eq_true] at hbranches
    rw [endsAny, endsAny, List.map_append, ends_within haround branch hbranches.1,
      endsAny_within haround rest hbranches.2]
termination_by structural branches

end

end TextScopes.Regex
