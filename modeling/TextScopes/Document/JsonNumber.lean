import TextScopes.Document.Basic

/-!
This module contains numbers of JSON documents. Integers that fit into sixty-four bits are exact.
Any other number is read into sixty-four bits of significand and a power of ten, digits that do not
fit being dropped, and then rounded.
-/

namespace TextScopes.JsonNumber

def maxSignificand : Nat := Nat.pow 2 64 - 1

/-- The significand and the power of ten of the digits read so far. -/
structure Scaled where
  /-- The digits that fit. -/
  significand : Nat
  exponent : Int
  /-- Whether a digit did not fit. -/
  full : Bool

def Scaled.addWhole (x : Scaled) (digit : Nat) : Scaled :=
  if x.full || maxSignificand < 10 * x.significand + digit then
    { x with exponent := x.exponent + 1, full := true }
  else { x with significand := 10 * x.significand + digit }

def Scaled.addFraction (x : Scaled) (digit : Nat) : Scaled :=
  if x.full || maxSignificand < 10 * x.significand + digit then { x with full := true }
  else { x with significand := 10 * x.significand + digit, exponent := x.exponent - 1 }

def digitValue (c : Char) : Nat := c.toNat - 48

/-- Multiply by a power of ten, or divide by one, in steps that a floating point number can hold.
There is no result if it would be infinite. -/
def scale : (steps : Nat) → Float → Int → Option Float
  | 0, x, _ => some x
  | steps + 1, x, exponent =>
    if exponent.natAbs ≤ 308 then
      let power := Float.ofScientific 1 false exponent.natAbs
      if 0 ≤ exponent then
        let y := x * power
        if y.isInf then none else some y
      else some (x / power)
    else if x == 0 then some x
    else if 0 ≤ exponent then none
    else scale steps (x / 1e308) (exponent + 308)

/-- The largest exponent that is told from larger ones. -/
def maxExponent : Nat := Nat.pow 2 31 - 1

def clampExponent (e : Int) : Int := max (-(Nat.pow 2 31 : Nat)) (min maxExponent e)

/-- The document of a number given by its parts: the sign, the digits before the point, those behind
it, and the sign and the digits of the exponent. A part that is missing has no digits. -/
def ofParts (negative : Bool) (whole fraction : List Char)
    (exponent : Option (Bool × List Char)) : Document :=
  let scaled := (whole.map digitValue).foldl Scaled.addWhole ⟨0, 0, false⟩
  if fraction.isEmpty && exponent.isNone && !scaled.full then
    let n := scaled.significand
    if !negative then .integer n
    else if n = 0 || Nat.pow 2 63 < n then .decimal (-(Float.ofNat n))
    else .integer (-(n : Int))
  else
    let scaled :=
      (fraction.map digitValue).foldl Scaled.addFraction { scaled with full := false }
    let sign (x : Float) : Float := if negative then -x else x
    let outOfRange : Document := .broken .malformed none
    match exponent with
    | some (negativeExponent, digits) =>
      let e := (digits.map digitValue).foldl (fun n d => 10 * n + d) 0
      if maxExponent < e then
        if scaled.significand = 0 || negativeExponent then .decimal (sign 0) else outOfRange
      else
        let e : Int := scaled.exponent + (if negativeExponent then -(e : Int) else e)
        (scale 8 (Float.ofNat scaled.significand) (clampExponent e)).elim outOfRange
          fun x => .decimal (sign x)
    | none =>
      (scale 8 (Float.ofNat scaled.significand) scaled.exponent).elim outOfRange
        fun x => .decimal (sign x)

end TextScopes.JsonNumber
