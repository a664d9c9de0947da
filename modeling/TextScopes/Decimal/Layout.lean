import TextScopes.Decimal.Shortest

/-!
This module contains the written form of floating point numbers: their shortest digits, laid out
with a decimal point or with an exponent. Which numbers get an exponent is a matter of the format.
-/

namespace TextScopes.Decimal

structure Layout where
  /-- Whether a number with so many digits before its point is written without an exponent. A
  negative count stands for zeros behind the point. -/
  positional : Int → Bool

namespace Layout

def plain : Layout := ⟨fun _ => true⟩

/-- Numbers from a hundred thousandth up to ten quadrillions are written out in full, others with an
exponent. -/
def scientific : Layout := ⟨fun magnitude => -5 < magnitude && magnitude ≤ 16⟩

def zeros (n : Nat) : String := String.ofList (List.replicate n '0')

/-- A positive number given by its digits and the exponent of the last one. -/
def render (layout : Layout) (digits : Nat) (unit : Int) : String :=
  let text := toString digits
  let count := text.length
  let magnitude : Int := count + unit
  if layout.positional magnitude then
    if 0 ≤ unit then text ++ zeros unit.toNat ++ ".0"
    else if 0 < magnitude then
      String.ofList (text.toList.take magnitude.toNat) ++ "." ++
        String.ofList (text.toList.drop magnitude.toNat)
    else "0." ++ zeros (-magnitude).toNat ++ text
  else
    let fraction := String.ofList (text.toList.drop 1)
    let point := if fraction = "" then "" else "."
    String.ofList (text.toList.take 1) ++ point ++ fraction ++ "e" ++ toString (magnitude - 1)

/-- The written form of a floating point number. Finite numbers show a point or an exponent. -/
def write (layout : Layout) (x : Float) : String :=
  let bits := x.toBits.toNat
  let sign := if Nat.pow 2 63 ≤ bits then "-" else ""
  match Binary.ofBits? (bits % Nat.pow 2 63) with
  | some b =>
    if b.mantissa = 0 then sign ++ "0.0"
    else
      let (digits, unit) := b.shortest
      sign ++ layout.render digits unit
  | none => if bits % Nat.pow 2 52 = 0 then sign ++ "inf" else "NaN"

end Layout

end TextScopes.Decimal
