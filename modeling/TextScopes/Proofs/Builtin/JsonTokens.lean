import TextScopes.Proofs.Builtin.JsonPatterns

/-!
This module contains that the tokens of a JSON text are matches of the patterns for them: numbers
and constants between delimiters, escapes behind the end of the previous escape, and all single
characters.
-/

namespace TextScopes.Builtin

open Regex JsonText

/-- The characters that may stand next to a number or a constant; a slash begins or ends a
comment. -/
def delimiters : List Char := [' ', '\t', '\n', '\r', ',', ':', '[', ']', '\x7b', '\x7d', '/']

/-- Whether there is no character, or one of the given ones. -/
def IsOneOf (chars : List Char) (c? : Option Char) : Prop := ∀ c, c? = some c → c ∈ chars

theorem IsOneOf.mono {chars chars' : List Char} {c? : Option Char} (h : IsOneOf chars c?)
    (hchars : chars ⊆ chars') : IsOneOf chars' c? := fun c hc => hchars (h c hc)

theorem IsOneOf.head?_append {chars : List Char} {a b : Text} (ha : IsOneOf chars a.head?)
    (hb : IsOneOf chars b.head?) : IsOneOf chars (a ++ b).head? := by
  cases a with
  | nil => exact hb
  | cons c a => exact ha

theorem IsOneOf.cons {chars : List Char} {c : Char} {rest : Text} (hc : c ∈ chars)
    : IsOneOf chars (c :: rest).head? := by
  rintro d ⟨⟩
  exact hc

theorem IsOneOf.contains_eq_false {chars : List Char} {c? : Option Char} (h : IsOneOf chars c?)
    {set : CharSet} (hset : chars.any set.contains = false) (c : Char) (hc : c? = some c)
    : set.contains c = false := by
  rw [List.any_eq_false] at hset
  exact Bool.eq_false_iff.mpr (hset c (h c hc))

section Numbers

variable (prev : Option Char) {after : Text}

def digitStops : List Char := '.' :: 'e' :: 'E' :: delimiters

theorem contains_digitStops : digitStops.any digitChars.contains = false := by decide

theorem contains_digits (digits : List Digit)
    : ∀ c ∈ digits.map (·.val), digitChars.contains c := by
  intro c hc
  rcases List.mem_map.mp hc with ⟨digit, -, rfl⟩
  exact contains_digitChars.mpr digit.property

theorem prefers_digits (digits : Digits) (hafter : IsOneOf digitStops after.head?)
    : (Expr.repetition 1 none true (.set digitChars)).Prefers prev digits.text after :=
  Expr.prefers_run rfl (contains_digits (digits.first :: digits.others)) (by simp [Digits.text])
    nofun (Or.inr (hafter.contains_eq_false contains_digitStops))

theorem prefers_wholeExpr (whole : Whole) (hafter : IsOneOf digitStops after.head?)
    : wholeExpr.Prefers prev whole.text after := by
  cases whole with
  | zero =>
    have hzero : Expr.Prefers (.literal ['0']) prev ['0'] after := Expr.prefers_literal _ _ _
    exact Expr.prefers_alternation [] hzero nofun
  | positive first others =>
    have hfirst : firstDigitChars.contains first.val :=
      contains_firstDigitChars.mpr first.property
    have hothers : Expr.Prefers (.repetition 0 none true (.set digitChars))
        (lastOf prev [first.val]) (others.map (·.val)) after :=
      Expr.prefers_run rfl (contains_digits others) (Nat.zero_le _) nofun
        (Or.inr (hafter.contains_eq_false contains_digitStops))
    have hconcat := Expr.prefers_concat (.cons (Expr.prefers_set hfirst) (.last hothers))
    refine Expr.prefers_alternation [.literal ['0']] hconcat ?_
    intro branch hbranch a b hab hspells
    rw [List.mem_singleton] at hbranch
    subst hbranch
    cases hspells
    have hfirst := first.property.1
    rw [(List.cons.inj hab).1] at hfirst
    exact absurd hfirst (by decide)

theorem refuses_concat_set {chars : CharSet} {es : List Expr} {text : Text}
    (h : ∀ c, text.head? = some c → chars.contains c = false)
    : (Expr.concat (.set chars :: es)).Refuses text := by
  rintro a b rfl ⟨_, v, rfl, ⟨c, hc, rfl⟩, -⟩
  rw [h c rfl] at hc
  contradiction

theorem refuses_concat_literal {c : Char} {es : List Expr} {text : Text}
    (h : text.head? ≠ some c) : (Expr.concat (.literal [c] :: es)).Refuses text := by
  rintro a b rfl ⟨_, v, rfl, rfl, -⟩
  exact h rfl

theorem prefers_fraction (fraction : Option Digits)
    (hafter : IsOneOf ('e' :: 'E' :: delimiters) after.head?)
    : (Expr.repetition 0 (some 1) true fractionExpr).Prefers prev
        (fraction.elim [] fun digits => ['.'] ++ digits.text) after := by
  cases fraction with
  | none =>
    apply Expr.prefers_nothing rfl
    apply refuses_concat_literal
    intro hpoint
    exact absurd (hafter '.' hpoint) (by decide)
  | some digits =>
    have hdigits := prefers_digits (lastOf prev ['.']) digits
      (hafter.mono (List.subset_cons_self _ _))
    apply Expr.prefers_optional rfl
    exact Expr.prefers_concat (.cons (Expr.prefers_literal _ _ _) (.last hdigits))

theorem contains_signChars {c : Char} (h : IsDigit c) : signChars.contains c = false := by
  have hlow : '0'.toNat ≤ c.toNat := h.1
  have hzero : '0'.toNat = 0x30 := rfl
  simp only [signChars, CharSet.contains, CharSet.covers]
  split
  . rfl
  . simp
    omega

theorem prefers_exponent (exponent : Option Exponent) (hafter : IsOneOf delimiters after.head?)
    : (Expr.repetition 0 (some 1) true exponentExpr).Prefers prev
        (exponent.elim [] Exponent.text) after := by
  cases exponent with
  | none =>
    apply Expr.prefers_nothing rfl
    apply refuses_concat_set
    exact hafter.contains_eq_false (by decide)
  | some exponent =>
    rcases exponent with ⟨capital, sign, digits⟩
    have hletter : exponentChars.contains (Exponent.letter ⟨capital, sign, digits⟩) := by
      cases capital with
      | true => rfl
      | false => rfl
    have hsign (prev : Option Char)
        : (Expr.repetition 0 (some 1) true (.set signChars)).Prefers prev
            (sign.map Sign.char).toList (digits.text ++ after) := by
      apply Expr.prefers_run rfl
      . cases sign with
        | none => exact nofun
        | some sign =>
          cases sign with
          | plus => exact List.all_eq_true.mp (by decide)
          | minus => exact List.all_eq_true.mp (by decide)
      . exact Nat.zero_le _
      . rintro m ⟨⟩
        cases sign with
        | none => exact Nat.zero_le _
        | some sign => exact Nat.le_refl _
      . cases sign with
        | none =>
          right
          rintro c ⟨⟩
          exact contains_signChars digits.first.property
        | some sign => exact Or.inl rfl
    have hdigits (prev : Option Char) := prefers_digits prev digits
      (hafter.mono (fun c hc => by simp [digitStops, hc]))
    apply Expr.prefers_optional rfl
    exact Expr.prefers_concat
      (.cons (Expr.prefers_set hletter) (.cons (hsign _) (.last (hdigits _))))

theorem head?_whole (whole : Whole) (c : Char) (hc : (whole.text ++ after).head? = some c)
    : (CharSet.singleton '-').contains c = false := by
  rw [contains_singleton]
  cases whole with
  | zero =>
    cases hc
    decide
  | positive first others =>
    cases hc
    rw [beq_eq_false_iff_ne]
    intro heq
    have hfirst := first.property.1
    rw [heq] at hfirst
    exact absurd hfirst (by decide)

theorem prefers_number (number : Number) (hafter : IsOneOf delimiters after.head?)
    : numberRegex.expr.Prefers prev number.text after := by
  have hexponent : IsOneOf ('e' :: 'E' :: delimiters) (number.exponentText ++ after).head? := by
    apply IsOneOf.head?_append _ (hafter.mono (by simp))
    unfold Number.exponentText
    cases number.exponent with
    | none => exact nofun
    | some exponent =>
      rcases exponent with ⟨capital, sign, digits⟩
      apply IsOneOf.cons
      cases capital with
      | true => exact List.mem_cons_of_mem _ List.mem_cons_self
      | false => exact List.mem_cons_self
  have hfraction
      : IsOneOf digitStops (number.fractionText ++ (number.exponentText ++ after)).head? := by
    apply IsOneOf.head?_append _ (hexponent.mono (List.subset_cons_self _ _))
    unfold Number.fractionText
    cases number.fraction with
    | none => exact nofun
    | some digits => exact IsOneOf.cons List.mem_cons_self
  have hsign : (Expr.repetition 0 (some 1) true (.literal ['-'])).Prefers prev number.signText
      (number.whole.text ++ (number.fractionText ++ (number.exponentText ++ after))) := by
    unfold Number.signText
    split
    . refine Expr.prefers_run rfl ?_ (Nat.zero_le _) ?_ (Or.inl rfl)
      . exact List.all_eq_true.mp (by decide)
      . rintro m ⟨⟩
        exact Nat.le_refl _
    . exact Expr.prefers_run rfl nofun (Nat.zero_le _) (fun m _ => Nat.zero_le m)
        (Or.inr (head?_whole number.whole))
  rw [← List.append_assoc number.fractionText, ← List.append_assoc] at hsign
  rw [← List.append_assoc] at hfraction
  exact Expr.prefers_concat
    (.cons hsign (.cons (prefers_wholeExpr _ number.whole hfraction)
      (.cons (prefers_fraction _ number.fraction hexponent)
        (.last (prefers_exponent _ number.exponent hafter)))))

end Numbers

theorem any_isWord_delimiters : delimiters.any isWord = false := by decide

theorem any_isWord_of_isOneOf {c? : Option Char} (h : IsOneOf delimiters c?)
    : c?.any isWord = false := by
  cases c? with
  | none => rfl
  | some c => exact Bool.eq_false_iff.mpr (List.any_eq_false.mp any_isWord_delimiters c (h c rfl))

theorem holds_wordEdge (prev next : Option Char)
    : Look.holds (.wordEdge false) prev next = (prev.any isWord != next.any isWord) := by
  unfold Look.holds
  simp only [Bool.false_eq_true, if_false]

theorem refuses_literal {c : Char} {chars : List Char} {text : Text} (h : text.head? ≠ some c)
    : (Expr.literal (c :: chars)).Refuses text := by
  rintro a b rfl rfl
  exact h rfl

theorem prefers_constant (constant : Constant) {prev : Option Char} {after : Text}
    (hprev : IsOneOf delimiters prev) (hafter : IsOneOf delimiters after.head?)
    : constantRegex.expr.Prefers prev constant.text after := by
  -- a constant begins and ends with a letter, what stands around it is none
  have hletters : (false != isWord 't') ∧ (false != isWord 'f') ∧ (false != isWord 'n')
      ∧ (isWord 'e' != false) ∧ (isWord 'l' != false) := by decide
  have hfirst : Look.holds (.wordEdge false) prev (constant.text ++ after).head? := by
    rw [holds_wordEdge, any_isWord_of_isOneOf hprev]
    cases constant with
    | true => exact hletters.1
    | false => exact hletters.2.1
    | null => exact hletters.2.2.1
  have hlast : Look.holds (.wordEdge false) (lastOf prev constant.text) after.head? := by
    rw [holds_wordEdge, any_isWord_of_isOneOf hafter]
    cases constant with
    | true => exact hletters.2.2.2.1
    | false => exact hletters.2.2.2.1
    | null => exact hletters.2.2.2.2
  have hbranch : (Expr.alternation [.literal ['t', 'r', 'u', 'e'],
      .literal ['f', 'a', 'l', 's', 'e'], .literal ['n', 'u', 'l', 'l']]).Prefers prev
        constant.text after := by
    have hliteral : (Expr.literal constant.text).Prefers prev constant.text after :=
      Expr.prefers_literal _ _ _
    have hheads : some 'f' ≠ some 't' ∧ some 'n' ≠ some 't' ∧ some 'n' ≠ some 'f' := by decide
    cases constant with
    | true => exact Expr.prefers_alternation [] hliteral nofun
    | false =>
      refine Expr.prefers_alternation [.literal ['t', 'r', 'u', 'e']] hliteral ?_
      intro branch hbranch
      rw [List.mem_singleton] at hbranch
      subst hbranch
      exact refuses_literal hheads.1
    | null =>
      refine Expr.prefers_alternation
        [.literal ['t', 'r', 'u', 'e'], .literal ['f', 'a', 'l', 's', 'e']] hliteral ?_
      intro branch hbranch
      simp only [List.mem_cons, List.not_mem_nil, or_false] at hbranch
      rcases hbranch with rfl | rfl
      . exact refuses_literal hheads.2.1
      . exact refuses_literal hheads.2.2
  have htail := Expr.PreferInTurn.cons hbranch (.last (Expr.prefers_look hlast))
  rw [List.append_nil] at htail
  exact Expr.prefers_concat (.cons (Expr.prefers_look hfirst) htail)

theorem contains_shortEscapeChars : ∀ c ∈ shortEscapes, shortEscapeChars.contains c :=
  List.all_eq_true.mp (by decide)

theorem contains_hexDigitChars {c : Char} (h : IsHexDigit c) : hexDigitChars.contains c := by
  have hle (a b : Char) : a ≤ b ↔ a.toNat ≤ b.toNat := Iff.rfl
  have hbounds : 'A'.toNat = 0x41 ∧ 'F'.toNat = 0x46 ∧ 'a'.toNat = 0x61 ∧ 'f'.toNat = 0x66
      ∧ '0'.toNat = 0x30 ∧ '9'.toNat = 0x39 := by decide
  simp only [IsHexDigit, IsDigit, hle, hbounds] at h
  simp only [hexDigitChars, CharSet.contains, CharSet.covers]
  grind

theorem prefers_short (c : { c : Char // c ∈ shortEscapes }) {prev : Option Char} {after : Text}
    : escapeRegex.expr.Prefers prev (Part.short c).text after := by
  have hset : (Expr.set shortEscapeChars).Prefers (lastOf prev ['\\']) [c.val] after :=
    Expr.prefers_set (contains_shortEscapeChars c.val c.property)
  exact Expr.prefers_concat
    (.cons (Expr.prefers_literal _ _ _) (.last (Expr.prefers_alternation [] hset nofun)))

theorem prefers_code (a b c d : HexDigit) {prev : Option Char} {after : Text}
    : escapeRegex.expr.Prefers prev (Part.code a b c d).text after := by
  have hdigits : (Expr.repetition 4 (some 4) true (.set hexDigitChars)).Prefers
      (lastOf (lastOf prev ['\\']) ['u']) [a.val, b.val, c.val, d.val] after := by
    refine Expr.prefers_run rfl ?_ (Nat.le_refl 4) ?_ (Or.inl rfl)
    . intro x hx
      simp only [List.mem_cons, List.not_mem_nil, or_false] at hx
      rcases hx with rfl | rfl | rfl | rfl
      all_goals exact contains_hexDigitChars (Subtype.property _)
    . rintro m ⟨⟩
      exact Nat.le_refl 4
  have hcode := Expr.prefers_concat (.cons (Expr.prefers_literal _ ['u'] _) (.last hdigits))
  refine Expr.prefers_concat
    (.cons (Expr.prefers_literal _ ['\\'] _)
      (.last (Expr.prefers_alternation [.set shortEscapeChars] hcode ?_)))
  intro branch hbranch v w hvw hspells
  rw [List.mem_singleton] at hbranch
  subst hbranch
  rcases hspells with ⟨x, hx, rfl⟩
  cases hvw
  exact absurd hx (by decide)

theorem contains_lineChars {c : Char} (hc : c ≠ '\n')
    : CharSet.contains ⟨[(0, 0x9), (0xB, 0x10FFFF)]⟩ c := by
  have hfeed : c.toNat ≠ 0xA := fun h => hc (Char.toNat_inj.mp h)
  have hvalid : c.toNat < 0x110000 := by
    have hc := c.valid
    unfold UInt32.isValidChar Nat.isValidChar at hc
    have heq : c.toNat = c.val.toNat := rfl
    omega
  simp only [CharSet.contains, CharSet.covers]
  grind

theorem prefers_illegal {c : Char} (hc : c ≠ '\n') {prev : Option Char} {after : Text}
    : illegalEscapeRegex.expr.Prefers prev ['\\', c] after :=
  Expr.prefers_concat
    (.cons (Expr.prefers_literal _ ['\\'] _) (.last (Expr.prefers_set (contains_lineChars hc))))

end TextScopes.Builtin
