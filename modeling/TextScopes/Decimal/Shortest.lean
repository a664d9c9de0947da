/-!
This module contains the shortest decimal form of a floating point number: the fewest digits that
no other number of the format is closer to, and of those the nearest. All arithmetic is exact.
-/

namespace TextScopes.Decimal

/-- A finite positive number `mantissa * 2 ^ exponent` with the place of its lower neighbour. -/
structure Binary where
  mantissa : Nat
  exponent : Int
  /-- Whether the lower neighbour is only half as far away as the upper one. -/
  closeBelow : Bool
  deriving DecidableEq, Repr

/-- The positive number with the given bits, less the sign, if it is finite. -/
def Binary.ofBits? (bits : Nat) : Option Binary :=
  let field : Nat := bits / Nat.pow 2 52 % Nat.pow 2 11
  let fraction := bits % Nat.pow 2 52
  if field = 2047 then none
  else if field = 0 then some ⟨fraction, -1074, false⟩
  else some ⟨fraction + Nat.pow 2 52, (field : Int) - 1075, fraction == 0 && 1 < field⟩

def fraction (n base : Nat) (exponent : Int) : Nat × Nat :=
  match exponent with
  | .ofNat e => (n * Nat.pow base e, 1)
  | .negSucc e => (n, Nat.pow base (e + 1))

def compareFractions (a b : Nat × Nat) : Ordering := compare (a.1 * b.2) (b.1 * a.2)

namespace Binary

/-- Whether a decimal number reads back as the given one: it lies nearer to it than to any
neighbour, or half way, where the even mantissa wins. -/
def readsBack (b : Binary) (digits : Nat) (exponent : Int) : Bool :=
  let value := fraction digits 10 exponent
  let low := fraction (4 * b.mantissa - if b.closeBelow then 1 else 2) 2 (b.exponent - 2)
  let high := fraction (4 * b.mantissa + 2) 2 (b.exponent - 2)
  let even := b.mantissa % 2 == 0
  (compareFractions low value == .lt || (even && compareFractions low value == .eq)) &&
    (compareFractions value high == .lt || (even && compareFractions value high == .eq))

/-- The number of decimal digits before the point, or minus the number of zeros behind it. -/
def magnitude (b : Binary) : Int :=
  let value := fraction b.mantissa 2 b.exponent
  let guess := ((Nat.log2 b.mantissa : Int) + b.exponent) * 30103 / 100000
  let tries := [guess - 1, guess, guess + 1, guess + 2]
  (tries.find? fun k => compareFractions value (fraction 1 10 k) == .lt).getD (guess + 3)

/-- The best decimal with a unit of the last place, if one reads back. -/
def onGrid? (b : Binary) (unit : Int) : Option Nat :=
  let value := fraction b.mantissa 2 b.exponent
  let scaled :=
    match unit with
    | .ofNat e => (value.1, value.2 * Nat.pow 10 e)
    | .negSucc e => (value.1 * Nat.pow 10 (e + 1), value.2)
  let below := scaled.1 / scaled.2
  let rest := scaled.1 % scaled.2
  let belowNearer := 2 * rest < scaled.2 || (2 * rest == scaled.2 && below % 2 == 0)
  match b.readsBack below unit && below != 0, b.readsBack (below + 1) unit with
  | true, true => some (if belowNearer then below else below + 1)
  | true, false => some below
  | false, true => some (below + 1)
  | false, false => none

/-- The shortest digits that read back, and the exponent of their last place. Seventeen digits are
always enough. A number just below a power of ten may round up to it, which is one digit again. -/
def shortest (b : Binary) : Nat × Int :=
  let magnitude := b.magnitude
  let grids := (List.range 17).map fun (n : Nat) => (n, magnitude - (n : Int) - 1)
  let found := grids.findSome? fun (n, unit) => (b.onGrid? unit).map fun digits =>
    if digits = Nat.pow 10 (n + 1) then (1, magnitude) else (digits, unit)
  found.getD (b.mantissa, b.exponent)

end Binary

end TextScopes.Decimal
