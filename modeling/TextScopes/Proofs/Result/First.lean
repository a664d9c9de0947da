import Mathlib.Order.Monotone.Defs
import TextScopes.Proofs.Result

/-!
This module contains results that report the first of several faults. Each fault is found at a spot,
and spots have an order. Steps that report their first faults do so one after the other as well, if
the faults of a step stand before those of the next ones.
-/

namespace TextScopes

variable {ε α β ι κ : Type} [Preorder ι] [Preorder κ] {faults first second : ι → ε → Prop}
  {x : Except ε α}

/-- Whether a result fails with the first of some faults, and succeeds only if there are none. -/
def ReportsFirst (faults : ι → ε → Prop) : Except ε α → Prop
  | .ok _ => ∀ i e, ¬ faults i e
  | .error e => ∃ i, faults i e ∧ ∀ j e', faults j e' → i ≤ j

namespace ReportsFirst

theorem congr (h : ReportsFirst first x) (heq : ∀ i e, first i e ↔ second i e)
    : ReportsFirst second x := by
  have : first = second := by
    funext i e
    exact propext (heq i e)
  exact this ▸ h

theorem lift (h : ReportsFirst faults x) {f : ι → κ} (hf : Monotone f)
    : ReportsFirst (fun k e => ∃ i, k = f i ∧ faults i e) x := by
  cases x with
  | ok a =>
    rintro k e ⟨i, -, hfault⟩
    exact h i e hfault
  | error e =>
    rcases h with ⟨i, hfault, hfirst⟩
    refine ⟨f i, ⟨i, rfl, hfault⟩, ?_⟩
    rintro k e' ⟨j, rfl, hother⟩
    exact hf (hfirst j e' hother)

/-- One step after another, if the faults of the first one stand before those of the second one. The
second one is only made if the first one succeeds. -/
theorem bind {f : α → Except ε β} (hx : ReportsFirst first x)
    (hf : ∀ a, x = .ok a → ReportsFirst second (f a))
    (hle : ∀ i e j e', first i e → second j e' → i ≤ j)
    : ReportsFirst (fun i e => first i e ∨ second i e) (x >>= f) := by
  cases x with
  | error e =>
    rcases hx with ⟨i, hfault, hfirst⟩
    refine ⟨i, Or.inl hfault, ?_⟩
    rintro j e' (hother | hother)
    . exact hfirst j e' hother
    . exact hle i e j e' hfault hother
  | ok a =>
    have hsecond := hf a rfl
    have hnone : ∀ i e, second i e ↔ first i e ∨ second i e :=
      fun i e => ⟨Or.inr, fun h => h.resolve_left (hx i e)⟩
    exact hsecond.congr hnone

theorem bind_ok {f : α → Except ε β} (h : ReportsFirst faults x)
    (hf : ∀ a, ∃ b, f a = .ok b) : ReportsFirst faults (x >>= f) := by
  cases x with
  | error e => exact h
  | ok a =>
    rcases hf a with ⟨b, hb⟩
    change ReportsFirst faults (f a)
    rw [hb]
    exact h

theorem map (h : ReportsFirst faults x) (f : α → β) : ReportsFirst faults (x.map f) := by
  cases x with
  | error e => exact h
  | ok a => exact h

end ReportsFirst

end TextScopes
