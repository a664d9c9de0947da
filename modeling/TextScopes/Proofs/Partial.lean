import Mathlib.Algebra.Group.Nat.Defs
import TextScopes.Error

/-!
This module contains operations that are not defined everywhere, and computations that stop where
such an operation is undefined. A function of this kind has the name of the one that it stands for,
with a question mark, and shows that the latter depends on no value outside of its domain.
-/

namespace TextScopes

/-- A difference, if it is not negative. -/
def sub? (a b : Nat) : Option Nat := if b ≤ a then some (a - b) else none

/-- The number nearest to a given one between two bounds, if these are in the right order. -/
def clamp? (least most n : Nat) : Option Nat :=
  if least ≤ most then some (min (max n least) most) else none

/-- A number, if it fits into a word of 32 bits. -/
def word? (n : Nat) : Option Nat := if n < 2 ^ 32 then some n else none

theorem sub?_eq_some {a b : Nat} (h : b ≤ a) : sub? a b = some (a - b) := if_pos h

theorem clamp?_eq_some {least most n : Nat} (h : least ≤ most)
    : clamp? least most n = some (min (max n least) most) := if_pos h

theorem word?_eq_some {n : Nat} (h : n < 2 ^ 32) : word? n = some n := if_pos h

theorem foldlM_eq_some {α β : Type} {f : β → α → Option β} {g : β → α → β} (holds : β → Prop)
    {as : List α} (h : ∀ a ∈ as, ∀ b, holds b → f b a = some (g b a) ∧ holds (g b a)) {b : β}
    (hb : holds b) : as.foldlM f b = some (as.foldl g b) ∧ holds (as.foldl g b) := by
  induction as generalizing b with
  | nil => exact ⟨rfl, hb⟩
  | cons a as ih =>
    rcases h a List.mem_cons_self b hb with ⟨heq, hnext⟩
    rw [List.foldlM_cons, List.foldl_cons, heq, Option.bind_eq_bind, Option.bind_some]
    exact ih (fun a ha => h a (List.mem_cons_of_mem _ ha)) hnext

theorem mapM_eq_some {α β : Type} {f : α → Option β} {g : α → β} {as : List α}
    (h : ∀ a ∈ as, f a = some (g a)) : as.mapM f = some (as.map g) := by
  induction as with
  | nil => rfl
  | cons a as ih =>
    rw [List.mapM_cons, h a List.mem_cons_self,
      ih fun a ha => h a (List.mem_cons_of_mem _ ha)]
    rfl

/-- What comes of a computation that may report an error, if no operation in it is undefined. -/
abbrev Attempt := ExceptT Error Option

namespace Attempt

variable {α β : Type}

/-- A result that involves no undefined operation. -/
def of (x : Except Error α) : Attempt α := some x

def need (x : Option α) : Attempt α := x.map .ok

def undefined : Attempt α := none

theorem of_bind {x : Except Error α} {f : α → Attempt β} {g : α → Except Error β}
    (h : ∀ a, x = .ok a → f a = of (g a)) : (of x >>= f) = of (x >>= g) := by
  cases x with
  | error error => rfl
  | ok a => exact h a rfl

theorem need_bind {x : Option α} {a : α} (h : x = some a) (f : α → Attempt β)
    : (need x >>= f) = f a := by
  rw [h]
  rfl

theorem foldlM_eq_of {f : β → α → Attempt β} {g : β → α → Except Error β}
    (holds : β → Prop) {as : List α}
    (h : ∀ a ∈ as, ∀ b, holds b → f b a = of (g b a) ∧ ∀ b', g b a = .ok b' → holds b') {b : β}
    (hb : holds b) : as.foldlM f b = of (as.foldlM g b) := by
  induction as generalizing b with
  | nil => rfl
  | cons a as ih =>
    rcases h a List.mem_cons_self b hb with ⟨heq, hnext⟩
    rw [List.foldlM_cons, List.foldlM_cons, heq]
    apply of_bind
    intro b' hb'
    exact ih (fun a ha => h a (List.mem_cons_of_mem _ ha)) (hnext b' hb')

end Attempt

end TextScopes
