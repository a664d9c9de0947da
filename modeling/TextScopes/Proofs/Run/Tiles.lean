import TextScopes.Run
import TextScopes.Proofs.Text.Boundary

/-!
This module contains tilings: runs that lie side by side between two offsets of a text. Which scopes
a run may have is given as a relation between its offsets and its scopes.
-/

namespace TextScopes

/-- The run that holds a byte of the text that given runs make up. -/
def runAt? : List Run → Nat → Option Run
  | [], _ => none
  | run :: runs, i => if i < run.value.size then some run else runAt? runs (i - run.value.size)

/-- Whether runs are pieces of a text side by side between two offsets, none of them empty, each
with scopes that may stand there. -/
inductive Tiles (text : Text) (holds : Nat → Nat → ScopeStack → Prop)
    : Nat → Nat → List Run → Prop
  | nil (start : Nat) : Tiles text holds start start []
  | cons {start mid stop : Nat} {run : Run} {runs : List Run} (hlt : start < mid)
    (hvalue : text.slice? start mid = some run.value) (hscopes : holds start mid run.scopes)
    (hruns : Tiles text holds mid stop runs) : Tiles text holds start stop (run :: runs)

/-- Whether all bytes between two offsets have given scopes. -/
def Uniform (assigned : Nat → ScopeStack) (start stop : Nat) (scopes : ScopeStack) : Prop :=
  ∀ i, start ≤ i → i < stop → assigned i = scopes

/-- Whether scopes that may stand in two stretches side by side may stand in both together. -/
def Joins (holds : Nat → Nat → ScopeStack → Prop) : Prop :=
  ∀ a b c scopes, holds a b scopes → holds b c scopes → holds a c scopes

theorem joins_uniform (assigned : Nat → ScopeStack) : Joins (Uniform assigned) := by
  intro a b c scopes hab hbc i hi hi'
  by_cases h : i < b
  . exact hab i hi h
  . exact hbc i (Nat.not_lt.mp h) hi'

namespace Tiles

variable {text : Text} {holds holds' : Nat → Nat → ScopeStack → Prop} {start mid stop : Nat}
  {run : Run} {runs others : List Run}

theorem le (h : Tiles text holds start stop runs) : start ≤ stop := by
  induction h with
  | nil => exact Nat.le_refl _
  | cons hlt _ _ _ ih => omega

theorem append (h : Tiles text holds start mid runs) (hothers : Tiles text holds mid stop others)
    : Tiles text holds start stop (runs ++ others) := by
  induction h with
  | nil => exact hothers
  | cons hlt hvalue hscopes _ ih => exact cons hlt hvalue hscopes (ih hothers)

theorem imp (h : Tiles text holds start stop runs)
    (himp : ∀ a b scopes, start ≤ a → b ≤ stop → holds a b scopes → holds' a b scopes)
    : Tiles text holds' start stop runs := by
  induction h with
  | nil => exact nil _
  | @cons start mid stop run runs hlt hvalue hscopes hruns ih =>
    apply cons hlt hvalue (himp _ _ _ (Nat.le_refl _) hruns.le hscopes)
    apply ih
    intro a b scopes ha hb
    exact himp a b scopes (by omega) hb

theorem of_singleton (h : Tiles text holds start stop [run])
    : start < stop ∧ text.slice? start stop = some run.value ∧ holds start stop run.scopes := by
  cases h with
  | cons hlt hvalue hscopes hnil =>
    cases hnil
    exact ⟨hlt, hvalue, hscopes⟩

theorem of_runOf {scopes : ScopeStack} (hstart : text.IsBoundary start)
    (hstop : text.IsBoundary stop) (hscopes : start < stop → holds start stop scopes)
    : Tiles text holds start (max start stop) (runOf text start stop scopes) := by
  unfold runOf
  split
  . next hlt =>
    rcases hstart.exists_slice hstop (Nat.le_of_lt hlt) with ⟨value, hvalue⟩
    rw [hvalue, Nat.max_eq_right (Nat.le_of_lt hlt)]
    exact cons hlt hvalue (hscopes hlt) (nil stop)
  . next hle =>
    rw [Nat.max_eq_left (Nat.not_lt.mp hle)]
    exact nil start

theorem push {blocks : List (List Run)} {scopes : ScopeStack}
    (h : Tiles text holds start mid blocks.reverse.flatten) (hmid : text.IsBoundary mid)
    (hstop : text.IsBoundary stop) (hscopes : mid < stop → holds mid stop scopes)
    : Tiles text holds start (max mid stop)
        (runOf text mid stop scopes :: blocks).reverse.flatten := by
  rw [List.reverse_cons, List.flatten_append, List.flatten_singleton]
  exact h.append (of_runOf hmid hstop hscopes)

theorem slice?_eq_some (h : Tiles text holds start stop runs) (hstart : text.IsBoundary start)
    : text.slice? start stop = some (runs.flatMap (·.value)) := by
  induction h with
  | nil start =>
    rcases hstart.exists_slice hstart (Nat.le_refl start) with ⟨piece, hpiece⟩
    have hsize := Text.size_of_slice? hpiece
    have hnil : piece = [] := Text.eq_nil_of_size_eq_zero (by omega)
    rw [hpiece, hnil]
    rfl
  | cons _ hvalue _ _ ih =>
    rw [List.flatMap_cons]
    exact Text.slice?_append hvalue (ih (Text.isBoundary_of_slice? hvalue))

theorem flatMap_value (h : Tiles text holds 0 text.size runs) : runs.flatMap (·.value) = text := by
  have hslice := h.slice?_eq_some text.isBoundary_zero
  rw [text.slice?_zero_size] at hslice
  exact (Option.some.inj hslice).symm

theorem exists_of_mem (h : Tiles text holds start stop runs) (hrun : run ∈ runs)
    : run.value ≠ [] ∧ ∃ a b, a < b ∧ b ≤ stop ∧ holds a b run.scopes := by
  induction h with
  | nil => contradiction
  | @cons start mid stop first runs hlt hvalue hscopes hruns ih =>
    cases hrun with
    | head =>
      refine ⟨?_, start, mid, hlt, hruns.le, hscopes⟩
      intro hnil
      have hsize := Text.size_of_slice? hvalue
      rw [hnil] at hsize
      simp at hsize
      omega
    | tail _ hrun => exact ih hrun

theorem exists_runAt? (h : Tiles text holds start stop runs) {i : Nat} (hi : i < stop - start)
    : ∃ run, runAt? runs i = some run ∧
        ∃ a b, a ≤ start + i ∧ start + i < b ∧ holds a b run.scopes := by
  induction h generalizing i with
  | nil => omega
  | @cons start mid stop first runs hlt hvalue hscopes hruns ih =>
    have hsize := Text.size_of_slice? hvalue
    unfold runAt?
    split
    . exact ⟨first, rfl, start, mid, by omega, by omega, hscopes⟩
    . next hle =>
      rcases ih (i := i - first.value.size) (by omega) with ⟨run, hrun, a, b, ha, hb, hholds⟩
      exact ⟨run, hrun, a, b, by omega, by omega, hholds⟩

theorem runAt?_eq_none (h : Tiles text holds start stop runs) {i : Nat} (hi : stop - start ≤ i)
    : runAt? runs i = none := by
  induction h generalizing i with
  | nil => rfl
  | cons hlt hvalue hscopes hruns ih =>
    have hsize := Text.size_of_slice? hvalue
    have hle := hruns.le
    unfold runAt?
    rw [if_neg (by omega)]
    exact ih (by omega)

theorem map_scopes_runAt? {assigned : Nat → ScopeStack}
    (h : Tiles text (Uniform assigned) 0 stop runs) (i : Nat)
    : (runAt? runs i).map (·.scopes) = if i < stop then some (assigned i) else none := by
  split
  . next hi =>
    rcases h.exists_runAt? (i := i) hi with ⟨run, hrun, a, b, ha, hb, huniform⟩
    rw [hrun, huniform i (by omega) (by omega)]
    rfl
  . next hi =>
    rw [h.runAt?_eq_none (by omega)]
    rfl

end Tiles

end TextScopes
