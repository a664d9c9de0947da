import TextScopes.Proofs.Regex.Hits
import TextScopes.Proofs.Regex.Line

/-!
This module contains the words that an expression can read. What a match reads is a word of the
expression, whatever was preferred on the way and whatever stands around it.
-/

namespace TextScopes.Regex

namespace Expr

mutual

/-- Whether an expression can read a word, were it not for its conditions and counts. -/
def Spells : Expr → Text → Prop
  | empty, w | look _, w => w = []
  | literal chars, w => w = chars
  | set chars, w => ∃ c, chars.contains c ∧ w = [c]
  | repetition _ _ _ body, w =>
    ∃ words : List Text, (∀ v ∈ words, Spells body v) ∧ w = words.flatten
  | group _ body, w => Spells body w
  | concat parts, w => SpellInTurn parts w
  | alternation branches, w => SpellAny branches w
termination_by structural e => e

def SpellInTurn : List Expr → Text → Prop
  | [], w => w = []
  | e :: es, w => ∃ a b, w = a ++ b ∧ Spells e a ∧ SpellInTurn es b
termination_by structural es => es

def SpellAny : List Expr → Text → Prop
  | [], _ => False
  | e :: es, w => Spells e w ∨ SpellAny es w
termination_by structural es => es

end

theorem spells_of_charsOf? {e : Expr} {chars : CharSet} (h : e.charsOf? = some chars) {c : Char}
    (hc : chars.contains c) : e.Spells [c] := by
  unfold charsOf? at h
  split at h
  . next c' =>
    cases h
    rw [contains_singleton, beq_iff_eq] at hc
    rw [Spells, hc]
  . cases h
    exact ⟨c, hc, rfl⟩
  . contradiction

mutual

/-- Whether no word of an expression has any of some characters in it. -/
def avoids (stops : List Char) : Expr → Bool
  | empty | look _ => true
  | literal chars => !chars.any stops.contains
  | set chars => !stops.any chars.contains
  | repetition _ _ _ body => body.avoids stops
  | group _ body => body.avoids stops
  | concat parts => allAvoid stops parts
  | alternation branches => allAvoid stops branches
termination_by structural e => e

def allAvoid (stops : List Char) : List Expr → Bool
  | [] => true
  | e :: es => e.avoids stops && allAvoid stops es
termination_by structural es => es

end

mutual

theorem not_mem_of_avoids {stops : List Char} (e : Expr) (h : e.avoids stops) (w : Text)
    (hw : e.Spells w) : ∀ c ∈ w, c ∉ stops := by
  match e with
  | .empty | .look _ =>
    cases hw
    exact nofun
  | .literal chars =>
    cases hw
    simpa [avoids] using h
  | .set chars =>
    rcases hw with ⟨c, hc, rfl⟩
    intro d hd hstop
    rw [List.mem_singleton] at hd
    subst hd
    simp [avoids] at h
    rw [h d hstop] at hc
    contradiction
  | .repetition _ _ _ body =>
    rcases hw with ⟨words, hwords, rfl⟩
    intro c hc
    rcases List.mem_flatten.mp hc with ⟨v, hv, hcv⟩
    exact not_mem_of_avoids body h v (hwords v hv) c hcv
  | .group _ body => exact not_mem_of_avoids body h w hw
  | .concat parts => exact not_mem_of_allAvoid_inTurn parts h w hw
  | .alternation branches => exact not_mem_of_allAvoid_any branches h w hw

theorem not_mem_of_allAvoid_inTurn {stops : List Char} (es : List Expr) (h : allAvoid stops es)
    (w : Text) (hw : SpellInTurn es w) : ∀ c ∈ w, c ∉ stops := by
  match es with
  | [] =>
    cases hw
    exact nofun
  | e :: es =>
    rw [allAvoid, Bool.and_eq_true] at h
    rcases hw with ⟨a, b, rfl, ha, hb⟩
    intro c hc
    rcases List.mem_append.mp hc with hc | hc
    . exact not_mem_of_avoids e h.1 a ha c hc
    . exact not_mem_of_allAvoid_inTurn es h.2 b hb c hc

theorem not_mem_of_allAvoid_any {stops : List Char} (es : List Expr) (h : allAvoid stops es)
    (w : Text) (hw : SpellAny es w) : ∀ c ∈ w, c ∉ stops := by
  match es with
  | [] => contradiction
  | e :: es =>
    rw [allAvoid, Bool.and_eq_true] at h
    rcases hw with hw | hw
    . exact not_mem_of_avoids e h.1 w hw
    . exact not_mem_of_allAvoid_any es h.2 w hw

end

end Expr

/-- Whether a thread gets to another one by reading a word. -/
def Thread.Reads (s : Thread) (w : Text) (t : Thread) : Prop :=
  s.cursor.rest = w ++ t.cursor.rest ∧ t.offset = s.offset + w.size

namespace Thread.Reads

theorem refl (t : Thread) : t.Reads [] t := ⟨rfl, rfl⟩

theorem trans {r s t : Thread} {v w : Text} (hrs : r.Reads v s) (hst : s.Reads w t)
    : r.Reads (v ++ w) t := by
  unfold Reads at *
  rw [hrs.1, hst.1, hst.2, hrs.2, Text.size_append, List.append_assoc, Nat.add_assoc]
  exact ⟨rfl, rfl⟩

theorem of_read? {p : Char → Bool} {s t : Thread} (h : s.read? p = some t)
    : ∃ c, p c ∧ s.Reads [c] t := by
  unfold read? at h
  split at h
  . contradiction
  . next c rest hrest =>
    split at h
    . next hc =>
      cases h
      exact ⟨c, hc, hrest, rfl⟩
    . contradiction

theorem of_readAll? {chars : List Char} {s t : Thread} (h : s.readAll? chars = some t)
    : s.Reads chars t := by
  induction chars generalizing s with
  | nil =>
    cases h
    exact refl t
  | cons c chars ih =>
    rcases Option.bind_eq_some_iff.mp h with ⟨next, hnext, hrest⟩
    rcases of_read? hnext with ⟨c', hc, hread⟩
    rw [beq_iff_eq] at hc
    subst hc
    exact hread.trans (ih hrest)

end Thread.Reads

theorem progress_words {e : Expr}
    : Progress (fun p => ∀ c, p c → e.Spells [c])
        (fun s t => ∃ words : List Text, (∀ v ∈ words, e.Spells v) ∧ s.Reads words.flatten t) where
  refl t := ⟨[], nofun, Thread.Reads.refl t⟩
  trans := by
    rintro r s t ⟨early, hearly, hrs⟩ ⟨late, hlate, hst⟩
    refine ⟨early ++ late, ?_, ?_⟩
    . intro v hv
      rcases List.mem_append.mp hv with hv | hv
      . exact hearly v hv
      . exact hlate v hv
    . rw [List.flatten_append]
      exact hrs.trans hst
  pass address t := ⟨[], nofun, rfl, rfl⟩
  read := by
    intro p s t hp h
    rcases Thread.Reads.of_read? h with ⟨c, hc, hread⟩
    exact ⟨[[c]], by simpa using hp c hc, hread⟩

mutual

/-- What a match reads is a word of the expression. -/
theorem exists_word_of_mem_ends (e : Expr) (address : Address) (s t : Thread)
    (h : t ∈ ends e address s) : ∃ w, e.Spells w ∧ s.Reads w t := by
  match e with
  | .empty =>
    rw [ends, List.mem_singleton] at h
    subst h
    exact ⟨[], rfl, Thread.Reads.refl t⟩
  | .literal chars => exact ⟨chars, rfl, Thread.Reads.of_readAll? (Option.mem_toList.mp h)⟩
  | .set chars =>
    rcases Thread.Reads.of_read? (Option.mem_toList.mp h) with ⟨c, hc, hread⟩
    exact ⟨[c], ⟨c, hc, rfl⟩, hread⟩
  | .look look =>
    rw [ends] at h
    split at h
    . rw [List.mem_singleton] at h
      subst h
      exact ⟨[], rfl, Thread.Reads.refl t⟩
    . contradiction
  | .group index body =>
    rw [ends] at h
    rcases List.mem_map.mp h with ⟨t', ht', rfl⟩
    exact exists_word_of_mem_ends body address s t' ht'
  | .concat parts =>
    rcases exists_word_of_mem_endsAll parts address 0 [s] t h with ⟨s', hs', hst⟩
    rw [List.mem_singleton] at hs'
    subst hs'
    exact hst
  | .alternation branches =>
    rw [ends] at h
    split at h
    . contradiction
    . exact exists_word_of_mem_endsAny branches address 0 (s.pass address) t
        (Thread.mem_of_mem_distinct h)
  | .repetition least most greedy body =>
    have hbody : ∀ copy s, ∀ t ∈ ends body (1 :: copy :: address) s, ∃ words : List Text,
        (∀ v ∈ words, body.Spells v) ∧ s.Reads words.flatten t := by
      intro copy s t ht
      rcases exists_word_of_mem_ends body (1 :: copy :: address) s t ht with ⟨w, hw, hread⟩
      exact ⟨[w], by simpa using hw, by simpa using hread⟩
    rcases progress_words.repeated hbody (fun chars hchars c => Expr.spells_of_charsOf? hchars) h
      with ⟨words, hwords, hread⟩
    exact ⟨words.flatten, ⟨words, hwords, rfl⟩, hread⟩

theorem exists_word_of_mem_endsAll (es : List Expr) (address : Address) (index : Nat)
    (threads : List Thread) (t : Thread) (h : t ∈ endsAll es address index threads)
    : ∃ s ∈ threads, ∃ w, Expr.SpellInTurn es w ∧ s.Reads w t := by
  match es with
  | [] => exact ⟨t, h, [], rfl, Thread.Reads.refl t⟩
  | part :: parts =>
    rcases exists_word_of_mem_endsAll parts address (index + 1) _ t h with ⟨mid, hmid, b, hb, hrest⟩
    rcases exists_of_mem_each (exists_word_of_mem_ends part (index :: address)) hmid
      with ⟨s, hs, a, ha, hfirst⟩
    exact ⟨s, hs, a ++ b, ⟨a, b, rfl, ha, hb⟩, hfirst.trans hrest⟩

theorem exists_word_of_mem_endsAny (es : List Expr) (address : Address) (index : Nat)
    (s t : Thread) (h : t ∈ endsAny es address index s)
    : ∃ w, Expr.SpellAny es w ∧ s.Reads w t := by
  match es with
  | [] => contradiction
  | branch :: branches =>
    rcases List.mem_append.mp h with h | h
    . rcases exists_word_of_mem_ends branch (index :: address) s t h with ⟨w, hw, hread⟩
      exact ⟨w, Or.inl hw, hread⟩
    . rcases exists_word_of_mem_endsAny branches address (index + 1) s t h with ⟨w, hw, hread⟩
      exact ⟨w, Or.inr hw, hread⟩

end

end TextScopes.Regex
