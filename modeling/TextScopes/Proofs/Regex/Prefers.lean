import TextScopes.Proofs.Regex.Search

/-!
This module contains what the preferred match of an expression reads. An expression prefers a word
if its parts prefer the pieces of the word without any of them having to give up its first choice.
-/

namespace TextScopes.Regex

def lastOf (prev : Option Char) (w : Text) : Option Char := w.getLast?.or prev

theorem lastOf_nil (prev : Option Char) : lastOf prev [] = prev := rfl

theorem lastOf_cons (prev : Option Char) (c : Char) (w : Text)
    : lastOf prev (c :: w) = lastOf (some c) w := by
  unfold lastOf
  cases hlast : w.getLast? with
  | none => simp [List.getLast?_cons, hlast]
  | some last => simp [List.getLast?_cons, hlast]

theorem lastOf_append (prev : Option Char) (a b : Text)
    : lastOf prev (a ++ b) = lastOf (lastOf prev a) b := by
  induction a generalizing prev with
  | nil => rfl
  | cons c a ih => rw [List.cons_append, lastOf_cons, lastOf_cons, ih]

namespace Thread

/-- Whether a thread has made no choice inside the part of an expression with the given address. -/
def IsFresh (address : Address) (t : Thread) : Prop := ∀ x ∈ t.passed, ¬ address <:+ x

/-- Whether a thread gets to another one by reading a word in front of a text, with no choices left
over but those of the part of an expression with the given address. -/
structure Goes (address : Address) (s : Thread) (w after : Text) (t : Thread) : Prop where
  cursor : t.cursor = ⟨lastOf s.cursor.prev w, after, s.offset + w.size⟩
  passed : ∀ x ∈ t.passed, x ∈ s.passed ∨ address <:+ x

theorem eq_of_suffix {i j : Nat} {address x : Address} (hi : (i :: address) <:+ x)
    (hj : (j :: address) <:+ x) : i = j := by
  have hsuffix := List.suffix_of_suffix_length_le hi hj (Nat.le_refl _)
  have heq := hsuffix.eq_of_length rfl
  simpa using heq

theorem suffix_of_cons_suffix {i : Nat} {address x : Address} (h : (i :: address) <:+ x)
    : address <:+ x := (List.suffix_cons i address).trans h

namespace IsFresh

variable {address : Address} {s : Thread}

theorem cons (h : s.IsFresh address) (i : Nat) : s.IsFresh (i :: address) := by
  intro x hx hsuffix
  exact h x hx (suffix_of_cons_suffix hsuffix)

theorem not_contains (h : s.IsFresh address) {x : Address} (hx : address <:+ x)
    : s.passed.contains x = false := by
  simpa using fun hmem => h x hmem hx

end IsFresh

namespace Goes

variable {address : Address} {r s t : Thread} {v w after : Text}

theorem refl (h : s.cursor.rest = after) : s.Goes address [] after s := by
  constructor
  . rw [lastOf_nil, ← h]
    rfl
  . exact fun x hx => Or.inl hx

theorem trans (hrs : r.Goes address v (w ++ after) s) (hst : s.Goes address w after t)
    : r.Goes address (v ++ w) after t := by
  have hoffset : s.offset = r.offset + v.size := congrArg Cursor.offset hrs.cursor
  constructor
  . rw [hst.cursor, hrs.cursor, hoffset, lastOf_append, Text.size_append, Nat.add_assoc]
  . intro x hx
    rcases hst.passed x hx with hx | hx
    . exact hrs.passed x hx
    . exact Or.inr hx

theorem up {i : Nat} (h : s.Goes (i :: address) w after t) : s.Goes address w after t := by
  refine ⟨h.cursor, fun x hx => ?_⟩
  rcases h.passed x hx with hx | hx
  . exact Or.inl hx
  . exact Or.inr (suffix_of_cons_suffix hx)

theorem pass (h : s.Goes address w after t) {x : Address} (hx : address <:+ x)
    : s.Goes address w after (t.pass x) := by
  refine ⟨h.cursor, fun y hy => ?_⟩
  rcases List.mem_cons.mp hy with rfl | hy
  . exact Or.inr hx
  . exact h.passed y hy

theorem of_pass {x : Address} (h : (s.pass x).Goes address w after t) (hx : address <:+ x)
    : s.Goes address w after t := by
  refine ⟨h.cursor, fun y hy => ?_⟩
  rcases h.passed y hy with hy | hy
  . rcases List.mem_cons.mp hy with rfl | hy
    . exact Or.inr hx
    . exact Or.inl hy
  . exact Or.inr hy

theorem mem_passed (h : ∀ address, s.Goes address w after t) {x : Address} (hx : x ∈ t.passed)
    : x ∈ s.passed := by
  rcases (h [0]).passed x hx with hx' | hzero
  . exact hx'
  . rcases (h [1]).passed x hx with hx' | hone
    . exact hx'
    . cases eq_of_suffix hzero hone

end Goes

theorem exists_read? {p : Char → Bool} {s : Thread} {c : Char} {rest : Text}
    (hrest : s.cursor.rest = c :: rest) (hc : p c)
    : ∃ t, s.read? p = some t ∧ ∀ address, s.Goes address [c] rest t := by
  unfold read?
  rw [hrest]
  dsimp only
  rw [if_pos hc]
  exact ⟨_, rfl, fun address => ⟨rfl, nofun⟩⟩

theorem read?_eq_none {p : Char → Bool} {s : Thread}
    (hrest : ∀ c, s.cursor.rest.head? = some c → p c = false) : s.read? p = none := by
  unfold read?
  split
  . rfl
  . next c rest heq =>
    rw [heq] at hrest
    rw [hrest c rfl]
    rfl

theorem head?_distinct (threads : List Thread) : (distinct threads).head? = threads.head? := by
  rcases threads with _ | ⟨t, _ | ⟨s, rest⟩⟩
  . rfl
  . rfl
  . simp [distinct, distinct.go, Offsets.contains, EmptyCollection.emptyCollection]

end Thread

open Thread

theorem head?_each {body : Thread → List Thread} {threads : List Thread} {s t : Thread}
    (hs : threads.head? = some s) (ht : (body s).head? = some t)
    : (each body threads).head? = some t := by
  rcases List.head?_eq_some_iff.mp hs with ⟨rest, rfl⟩
  unfold each
  split
  . next s' heq =>
    cases heq
    exact ht
  . rw [head?_distinct, List.flatMap_cons, List.head?_append, ht]
    rfl

namespace Expr

/-- Whether the preferred match of an expression between a character and a text reads a word. -/
def Prefers (e : Expr) (prev : Option Char) (w after : Text) : Prop :=
  ∀ (address : Address) (s : Thread), s.cursor.prev = prev → s.cursor.rest = w ++ after →
    s.IsFresh address → ∃ t, (ends e address s).head? = some t ∧ s.Goes address w after t

variable {e : Expr} {prev : Option Char} {w after : Text}

theorem prefers_literal (prev : Option Char) (w after : Text)
    : (literal w).Prefers prev w after := by
  intro address s _ hrest _
  have hread : ∃ t, s.readAll? w = some t ∧ s.Goes address w after t := by
    clear * - hrest
    induction w generalizing s with
    | nil => exact ⟨s, rfl, Goes.refl hrest⟩
    | cons c w ih =>
      rcases exists_read? (p := (· == c)) hrest (beq_self_eq_true c) with ⟨next, hnext, hgoes⟩
      have hnextRest := congrArg Cursor.rest (hgoes address).cursor
      rcases ih next hnextRest with ⟨t, ht, hgoes'⟩
      refine ⟨t, ?_, (hgoes address).trans hgoes'⟩
      rw [readAll?, hnext]
      exact ht
  rcases hread with ⟨t, ht, hgoes⟩
  refine ⟨t, ?_, hgoes⟩
  rw [ends, ht]
  rfl

theorem prefers_set {chars : CharSet} {c : Char} (hc : chars.contains c)
    : (set chars).Prefers prev [c] after := by
  intro address s _ hrest _
  rcases exists_read? hrest hc with ⟨t, ht, hgoes⟩
  refine ⟨t, ?_, hgoes address⟩
  rw [ends, ht]
  rfl

theorem prefers_look {condition : Look} (h : condition.holds prev after.head?)
    : (look condition).Prefers prev [] after := by
  rintro address s rfl hrest _
  rw [List.nil_append] at hrest
  refine ⟨s, ?_, Goes.refl hrest⟩
  rw [ends, hrest, if_pos h]
  rfl

theorem prefers_group (index : Nat) (h : e.Prefers prev w after)
    : (group index e).Prefers prev w after := by
  intro address s hprev hrest hfresh
  rcases h address s hprev hrest hfresh with ⟨t, ht, hgoes⟩
  refine ⟨t.record index s.offset, ?_, ⟨hgoes.cursor, hgoes.passed⟩⟩
  rw [ends, List.head?_map, ht]
  rfl

/-- Whether several expressions prefer the pieces of a word in turn. -/
inductive PreferInTurn : List Expr → Option Char → Text → Text → Prop
  | nil {prev : Option Char} {after : Text} : PreferInTurn [] prev [] after
  | cons {e : Expr} {es : List Expr} {prev : Option Char} {v w after : Text}
    (he : e.Prefers prev v (w ++ after)) (hes : PreferInTurn es (lastOf prev v) w after)
    : PreferInTurn (e :: es) prev (v ++ w) after

theorem PreferInTurn.last {e : Expr} {prev : Option Char} {w after : Text}
    (he : e.Prefers prev w after) : PreferInTurn [e] prev w after := by
  have h : PreferInTurn [e] prev (w ++ []) after := .cons he .nil
  rwa [List.append_nil] at h

theorem prefers_concat {parts : List Expr} (h : PreferInTurn parts prev w after)
    : (concat parts).Prefers prev w after := by
  intro address s hprev hrest hfresh
  have hall (index : Nat) (threads : List Thread) (hs : threads.head? = some s)
      (hfresh : ∀ i, index ≤ i → s.IsFresh (i :: address))
      : ∃ t, (endsAll parts address index threads).head? = some t ∧ s.Goes address w after t := by
    clear * - h hprev hrest hs hfresh
    induction h generalizing index threads s with
    | nil => exact ⟨s, hs, Goes.refl hrest⟩
    | cons he _ ih =>
      rw [List.append_assoc] at hrest
      rcases he (index :: address) s hprev hrest (hfresh index (Nat.le_refl _))
        with ⟨mid, hmid, hgoes⟩
      have hmidPrev := congrArg Cursor.prev hgoes.cursor
      have hmidRest := congrArg Cursor.rest hgoes.cursor
      rw [hprev] at hmidPrev
      have hmidFresh (i : Nat) (hi : index + 1 ≤ i) : mid.IsFresh (i :: address) := by
        intro x hx hsuffix
        rcases hgoes.passed x hx with hx | hx
        . exact hfresh i (by omega) x hx hsuffix
        . have := eq_of_suffix hx hsuffix
          omega
      rcases ih mid hmidPrev hmidRest (index + 1) _ (head?_each hs hmid) hmidFresh
        with ⟨t, ht, hgoes'⟩
      exact ⟨t, ht, hgoes.up.trans hgoes'⟩
  rw [ends]
  exact hall 0 [s] rfl fun i _ => hfresh.cons i

/-- Whether an expression reads no beginning of a text. -/
def Refuses (e : Expr) (text : Text) : Prop := ∀ a b, text = a ++ b → ¬ e.Spells a

theorem ends_eq_nil {text : Text} (h : e.Refuses text) (address : Address) {s : Thread}
    (hs : s.cursor.rest = text) : ends e address s = [] := by
  rw [List.eq_nil_iff_forall_not_mem]
  intro t ht
  rcases exists_word_of_mem_ends e address s t ht with ⟨w, hw, hread⟩
  exact h w t.cursor.rest (hs.symm.trans hread.1) hw

theorem prefers_alternation (before : List Expr) {behind : List Expr}
    (he : e.Prefers prev w after)
    (hbefore : ∀ branch ∈ before, branch.Refuses (w ++ after))
    : (alternation (before ++ e :: behind)).Prefers prev w after := by
  intro address s hprev hrest hfresh
  -- the branches before cannot read anything, so that the first end is one of the branch itself
  have hany (index : Nat) (s : Thread) (hprev : s.cursor.prev = prev)
      (hrest : s.cursor.rest = w ++ after) (hfresh : ∀ i, s.IsFresh (i :: address))
      : ∃ t, (endsAny (before ++ e :: behind) address index s).head? = some t
        ∧ s.Goes address w after t := by
    clear * - he hbefore hprev hrest hfresh
    induction before generalizing index with
    | nil =>
      rcases he (index :: address) s hprev hrest (hfresh index) with ⟨t, ht, hgoes⟩
      refine ⟨t, ?_, hgoes.up⟩
      rw [List.nil_append, endsAny, List.head?_append, ht]
      rfl
    | cons branch before ih =>
      rcases ih (fun b hb => hbefore b (List.mem_cons_of_mem _ hb)) (index + 1)
        with ⟨t, ht, hgoes⟩
      refine ⟨t, ?_, hgoes⟩
      rw [List.cons_append, endsAny, ends_eq_nil (hbefore branch List.mem_cons_self) _ hrest]
      exact ht
  -- the choice is made at the alternation, above all of its branches
  have hpassFresh (i : Nat) : (s.pass address).IsFresh (i :: address) := by
    intro x hx hsuffix
    rcases List.mem_cons.mp hx with rfl | hx
    . have hlength := hsuffix.length_le
      rw [List.length_cons] at hlength
      omega
    . exact hfresh.cons i x hx hsuffix
  rcases hany 0 (s.pass address) hprev hrest hpassFresh with ⟨t, ht, hgoes⟩
  refine ⟨t, ?_, hgoes.of_pass (List.suffix_refl _)⟩
  rw [ends, hfresh.not_contains (List.suffix_refl _)]
  simp only [Bool.false_eq_true, if_false, head?_distinct]
  exact ht

end Expr

theorem exists_exactly (body : Nat → Thread → List Thread) {chars : CharSet}
    (hbody : ∀ copy t, body copy t = (t.read? chars.contains).toList) {w after : Text}
    (hw : ∀ c ∈ w, chars.contains c) (done : Nat) {s : Thread} (hrest : s.cursor.rest = w ++ after)
    : ∃ t, exactly body done w.length [s] = [t] ∧ ∀ address, s.Goes address w after t := by
  induction w generalizing done s with
  | nil => exact ⟨s, rfl, fun address => Goes.refl hrest⟩
  | cons c w ih =>
    rcases exists_read? hrest (hw c List.mem_cons_self) with ⟨next, hnext, hgoes⟩
    have hnextRest := congrArg Cursor.rest (hgoes []).cursor
    rcases ih (fun d hd => hw d (List.mem_cons_of_mem c hd)) (done + 1) hnextRest
      with ⟨t, ht, hgoes'⟩
    have hstep : exactly body done (w.length + 1) [s]
        = exactly body (done + 1) w.length (body (done + 1) s) := rfl
    refine ⟨t, ?_, fun address => (hgoes address).trans (hgoes' address)⟩
    rw [List.length_cons, hstep, hbody, hnext]
    exact ht

theorem getLast?_runs {chars : CharSet} {w after : Text} (hw : ∀ c ∈ w, chars.contains c)
    (copy : Nat → Nat) (address : Address) {times : Nat} (htimes : w.length ≤ times)
    (hstop : w.length = times ∨ ∀ c, after.head? = some c → chars.contains c = false) {s : Thread}
    (hrest : s.cursor.rest = w ++ after)
    : ∃ t, (runs chars copy address times s).getLast? = some t ∧ s.Goes address w after t := by
  have hsuffix (choice copy : Nat) : address <:+ choice :: copy :: address :=
    (List.suffix_cons copy address).trans (List.suffix_cons choice _)
  induction w generalizing times s with
  | nil =>
    cases times with
    | zero => exact ⟨s, rfl, Goes.refl hrest⟩
    | succ times =>
      have hstop : ∀ c, after.head? = some c → chars.contains c = false := by
        rcases hstop with hstop | hstop
        . contradiction
        . exact hstop
      refine ⟨_, ?_, (Goes.refl hrest).pass (hsuffix 0 (copy (times + 1)))⟩
      rw [runs, read?_eq_none (by rwa [Thread.pass, hrest])]
      rfl
  | cons c w ih =>
    cases times with
    | zero => contradiction
    | succ times =>
      rw [List.length_cons] at htimes hstop
      rcases exists_read? (s := s.pass (0 :: copy (times + 1) :: address)) hrest
        (hw c List.mem_cons_self) with ⟨next, hnext, hgoes⟩
      have hnextRest := congrArg Cursor.rest (hgoes address).cursor
      rcases ih (fun d hd => hw d (List.mem_cons_of_mem c hd)) (Nat.le_of_succ_le_succ htimes)
        (hstop.imp_left Nat.succ.inj) hnextRest with ⟨t, ht, hgoes'⟩
      refine ⟨t, ?_, ((hgoes address).trans hgoes').of_pass (hsuffix _ _)⟩
      rw [runs, hnext]
      simp [List.getLast?_cons, ht]

namespace Expr

variable {prev : Option Char} {w after : Text}

/-- A greedy repetition of one character reads as many as it can and may. -/
theorem prefers_run {body : Expr} {chars : CharSet} (hbody : body.charsOf? = some chars)
    {least : Nat} {most : Option Nat} (hw : ∀ c ∈ w, chars.contains c) (hleast : least ≤ w.length)
    (hmost : ∀ m, most = some m → w.length ≤ m)
    (hstop : most = some w.length ∨ ∀ c, after.head? = some c → chars.contains c = false)
    : (repetition least most true body).Prefers prev w after := by
  intro address s hprev hrest hfresh
  -- what must be read, and what may be read behind it
  have hsplit : w = w.take least ++ w.drop least := (List.take_append_drop least w).symm
  have hlength : (w.take least).length = least := List.length_take_of_le hleast
  have hdrop : (w.drop least).length = w.length - least := List.length_drop
  generalize w.take least = first at *
  generalize w.drop least = second at *
  subst hsplit
  rw [List.append_assoc] at hrest
  have hreads (copy : Nat) (t : Thread)
      : ends body (1 :: copy :: address) t = (t.read? chars.contains).toList :=
    ends_of_charsOf? hbody _ t
  rcases exists_exactly (fun copy t => ends body (1 :: copy :: address) t) hreads
    (fun c hc => hw c (List.mem_append_left _ hc)) 0 hrest with ⟨mid, hmid, hgoes⟩
  rw [hlength] at hmid
  have hmidRest := congrArg Cursor.rest (hgoes []).cursor
  have hruns (copy : Nat → Nat) (times : Nat) (htimes : second.length ≤ times)
      (hstop : second.length = times ∨ ∀ c, after.head? = some c → chars.contains c = false)
      : ∃ t, (if times ≠ 0 ∧ mid.passed.contains (0 :: copy times :: address) then []
          else (runs chars copy address times mid).reverse).head? = some t
        ∧ s.Goes address (first ++ second) after t := by
    have hmidFresh : mid.IsFresh address := fun x hx => hfresh x (Goes.mem_passed hgoes hx)
    have hsuffix : address <:+ 0 :: copy times :: address :=
      (List.suffix_cons _ address).trans (List.suffix_cons 0 _)
    rcases getLast?_runs (fun c hc => hw c (List.mem_append_right _ hc)) copy address htimes hstop
      hmidRest with ⟨t, ht, hgoes'⟩
    refine ⟨t, ?_, (hgoes address).trans hgoes'⟩
    rw [hmidFresh.not_contains hsuffix, if_neg (by simp), List.head?_reverse]
    exact ht
  rw [List.length_append] at hmost hstop hdrop
  rw [ends, hbody]
  unfold repeated
  dsimp only
  rw [hmid]
  cases most with
  | none =>
    have hle : second.length ≤ s.cursor.rest.length + 2 := by
      rw [hrest, List.length_append, List.length_append]
      omega
    exact hruns (fun _ => least) _ hle (Or.inr (hstop.resolve_left nofun))
  | some m =>
    have hle := hmost m rfl
    refine hruns (fun remaining => m + 1 - remaining) (m - least) (by omega) ?_
    rcases hstop with hstop | hstop
    . left
      cases hstop
      omega
    . exact Or.inr hstop

theorem left_iterate_one (body : Nat → Thread → List Thread) (copy : Nat → Nat)
    {address : Address} {s : Thread}
    (hchoice : s.passed.contains (0 :: copy 1 :: address) = false)
    : (iterate body copy true address 1 s ⟨[], []⟩).left
      = s.pass (0 :: copy 1 :: address)
        :: (body (copy 1) (s.pass (0 :: copy 1 :: address))).reverse := by
  have hleft (threads : List Thread) (found : Iteration)
      : (threads.foldl (fun found next => iterate body copy true address 0 next found) found).left
        = threads.reverse ++ found.left := by
    induction threads generalizing found with
    | nil => rfl
    | cons t threads ih =>
      rw [List.foldl_cons, ih, List.reverse_cons, List.append_assoc]
      rfl
  rw [iterate]
  dsimp only [Nat.zero_add]
  have hentered : Iteration.hasEntered ⟨[], []⟩ (copy 1) s.offset = false := rfl
  rw [hchoice, hentered]
  simp only [Bool.or_self, Bool.false_eq_true, if_false, if_true]
  rw [Iteration.leave, hleft]
  simp [Iteration.enter]

theorem head?_ends_optional {body : Expr} (hbody : body.charsOf? = none) {address : Address}
    {s : Thread} (hfresh : s.IsFresh address)
    : (ends (repetition 0 (some 1) true body) address s).head?
      = (ends body (1 :: 1 :: address) (s.pass (0 :: 1 :: address))
          ++ [s.pass (0 :: 1 :: address)]).head? := by
  have hchoice : s.passed.contains (0 :: (1 + 1 - 1) :: address) = false :=
    hfresh.not_contains ((List.suffix_cons 1 address).trans (List.suffix_cons 0 _))
  have hleft := left_iterate_one (fun copy t => ends body (1 :: copy :: address) t)
    (fun remaining => 1 + 1 - remaining) hchoice
  have hends : ends (repetition 0 (some 1) true body) address s
      = distinct (iterate (fun copy t => ends body (1 :: copy :: address) t)
          (fun remaining => 1 + 1 - remaining) true address 1 s ⟨[], []⟩).left.reverse := by
    rw [ends, hbody]
    rfl
  rw [hends, head?_distinct, hleft, List.reverse_cons, List.reverse_reverse]

theorem prefers_optional {body : Expr} (hbody : body.charsOf? = none)
    (h : body.Prefers prev w after) : (repetition 0 (some 1) true body).Prefers prev w after := by
  intro address s hprev hrest hfresh
  have hpassFresh : (s.pass (0 :: 1 :: address)).IsFresh (1 :: 1 :: address) := by
    intro x hx hsuffix
    rcases List.mem_cons.mp hx with rfl | hx
    . cases eq_of_suffix hsuffix (List.suffix_refl _)
    . exact (hfresh.cons 1).cons 1 x hx hsuffix
  rcases h _ (s.pass (0 :: 1 :: address)) hprev hrest hpassFresh with ⟨t, ht, hgoes⟩
  refine ⟨t, ?_, hgoes.up.up.of_pass ?_⟩
  . rw [head?_ends_optional hbody hfresh, List.head?_append, ht]
    rfl
  . exact (List.suffix_cons 1 address).trans (List.suffix_cons 0 _)

theorem prefers_nothing {body : Expr} (hbody : body.charsOf? = none) (h : body.Refuses after)
    : (repetition 0 (some 1) true body).Prefers prev [] after := by
  intro address s _ hrest hfresh
  rw [List.nil_append] at hrest
  refine ⟨_, ?_, (Goes.refl hrest).pass (x := 0 :: 1 :: address) ?_⟩
  . rw [head?_ends_optional hbody hfresh, ends_eq_nil h _ (s := s.pass (0 :: 1 :: address)) hrest]
    rfl
  . exact (List.suffix_cons 1 address).trans (List.suffix_cons 0 _)

end Expr

def Hit.whole (start stop : Nat) : Hit := ⟨start, stop, [some (start, stop)]⟩

theorem matchAt?_of_prefers {re : Regex} (hgroups : re.groupCount = 1) {before w after : Text}
    (h : re.expr.Prefers before.getLast? w after)
    : re.matchAt? (.between before (w ++ after))
      = some (.whole before.size (before.size + w.size)) := by
  rcases h [] ⟨.between before (w ++ after), [], []⟩ rfl rfl nofun with ⟨t, ht, hgoes⟩
  have hoffset : t.offset = before.size + w.size := congrArg Cursor.offset hgoes.cursor
  unfold matchAt?
  rw [ht, hgroups]
  simp [Thread.hit, Hit.whole, hoffset, Cursor.between]

theorem whole_mem_hits {re : Regex} (hgroups : re.groupCount = 1) {before w after : Text}
    (hclear : re.IsClear (before ++ (w ++ after)) before.size)
    (h : re.expr.Prefers before.getLast? w after)
    : Hit.whole before.size (before.size + w.size) ∈ re.hits (before ++ (w ++ after)) :=
  mem_hits hclear (matchAt?_of_prefers hgroups h)

theorem whole_mem_hits_char (pattern : String) (before : Text) (c : Char) (after : Text)
    : Hit.whole before.size (before.size + Text.size [c])
        ∈ (⟨pattern, .literal [c]⟩ : Regex).hits (before ++ ([c] ++ after)) :=
  whole_mem_hits rfl (isClear_of_literal rfl) (Expr.prefers_literal _ _ _)

theorem whole_mem_hits_pair (pattern : String) (before : Text) {c d : Char} (hne : c ≠ d)
    (after : Text)
    : Hit.whole before.size (before.size + Text.size [c, d])
        ∈ (⟨pattern, .literal [c, d]⟩ : Regex).hits (before ++ ([c, d] ++ after)) := by
  refine whole_mem_hits rfl (isClear_of_not_spells ?_) (Expr.prefers_literal _ _ _)
  rintro a b ha hb - ⟨tail, htail⟩ hspells
  replace hspells : a ++ b = [c, d] := hspells
  match a with
  | [] => contradiction
  | [x] =>
    cases hspells
    cases htail
    exact hne rfl
  | x :: y :: a =>
    cases (List.append_eq_nil_iff.mp (List.cons.inj (List.cons.inj hspells).2).2).2
    contradiction

theorem spells_of_whole_mem_hits {re : Regex} {before w after : Text}
    (h : Hit.whole before.size (before.size + w.size) ∈ re.hits (before ++ (w ++ after)))
    : re.expr.Spells w := by
  rcases exists_word_of_mem_hits h with ⟨front, v, tail, htext, hv, hstart, hstop⟩
  replace hstart : before.size = front.size := hstart
  replace hstop : before.size + w.size = front.size + v.size := hstop
  rcases Text.append_inj_of_size htext hstart.symm with ⟨-, htext⟩
  rcases Text.append_inj_of_size htext (by omega) with ⟨rfl, -⟩
  exact hv

end TextScopes.Regex
