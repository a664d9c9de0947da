/-!
This module contains how results that can be errors come apart: a step after another one succeeds
exactly if both succeed.
-/

namespace TextScopes

variable {ε ε' α β : Type}

theorem bind_eq_ok_iff {x : Except ε α} {f : α → Except ε β} {b : β}
    : (x >>= f) = .ok b ↔ ∃ a, x = .ok a ∧ f a = .ok b := by
  cases x with
  | error e => simp [bind, Except.bind]
  | ok a => simp [bind, Except.bind]

theorem map_eq_ok_iff {x : Except ε α} {f : α → β} {b : β}
    : x.map f = .ok b ↔ ∃ a, x = .ok a ∧ f a = b := by
  cases x with
  | error e => simp [Except.map]
  | ok a => simp [Except.map]

theorem mapError_eq_ok_iff {x : Except ε α} {f : ε → ε'} {a : α}
    : x.mapError f = .ok a ↔ x = .ok a := by
  cases x with
  | error e => exact ⟨nofun, nofun⟩
  | ok a =>
    constructor
    . intro h
      cases h
      rfl
    . intro h
      cases h
      rfl

theorem toOption_eq_some_iff {x : Except ε α} {a : α} : x.toOption = some a ↔ x = .ok a := by
  cases x with
  | error e => exact ⟨nofun, nofun⟩
  | ok a => simp [Except.toOption]

theorem toOption_eq_iff {x : Except ε α} {y : Except ε' α}
    : x.toOption = y.toOption ↔ ∀ a, x = .ok a ↔ y = .ok a := by
  rw [Option.ext_iff]
  simp only [toOption_eq_some_iff]

theorem toOption_bind {x : Except ε α} {f : α → Except ε β}
    : (x >>= f).toOption = x.toOption.bind fun a => (f a).toOption := by
  cases x with
  | error e => rfl
  | ok a => rfl

theorem toOption_map {x : Except ε α} {f : α → β} : (x.map f).toOption = x.toOption.map f := by
  cases x with
  | error e => rfl
  | ok a => rfl

theorem exists_bind_iff {x : Except ε α} {f : α → Except ε β}
    : (∃ b, (x >>= f) = .ok b) ↔ ∃ a, x = .ok a ∧ ∃ b, f a = .ok b := by
  constructor
  . rintro ⟨b, h⟩
    rcases bind_eq_ok_iff.mp h with ⟨a, ha, hb⟩
    exact ⟨a, ha, b, hb⟩
  . rintro ⟨a, ha, b, hb⟩
    exact ⟨b, bind_eq_ok_iff.mpr ⟨a, ha, hb⟩⟩

theorem exists_map_iff {x : Except ε α} {f : α → β}
    : (∃ b, x.map f = .ok b) ↔ ∃ a, x = .ok a := by
  constructor
  . rintro ⟨b, h⟩
    rcases map_eq_ok_iff.mp h with ⟨a, ha, -⟩
    exact ⟨a, ha⟩
  . rintro ⟨a, ha⟩
    exact ⟨f a, map_eq_ok_iff.mpr ⟨a, ha, rfl⟩⟩

end TextScopes
