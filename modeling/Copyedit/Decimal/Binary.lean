/-!
# Binary numbers taken apart

A finite binary floating-point number is `mantissa * 2 ^ exponent` up to its sign. The exact decimal
printing of such a number, and the choice of the one nearest to a fraction, both work on these parts in
exact integer arithmetic.
-/

namespace Copyedit.Decimal

/-- The parts of a finite binary number. -/
structure Parts where
  /-- Whether the sign bit is set. -/
  negative : Bool
  /-- The integer that the power of two multiplies. -/
  mantissa : Nat
  /-- The exponent of two. -/
  exponent : Int
  /-- Whether the gap below the number is half the gap above. -/
  narrowBelow : Bool

/-- The parts of a number; none for an infinity or a non-number. -/
def parts? (x : Float) : Option Parts :=
  let bits : Nat := x.toBits.toNat
  let biased : Nat := bits / Nat.pow 2 52 % Nat.pow 2 11
  let fraction : Nat := bits % Nat.pow 2 52
  let negative := bits / Nat.pow 2 63 == 1
  if biased == Nat.pow 2 11 - 1 then none
  else if biased == 0 then some ⟨negative, fraction, -1074, false⟩
  else some ⟨negative, Nat.pow 2 52 + fraction, (biased : Int) - 1075, fraction == 0 && biased > 1⟩

/-- The magnitude as numerator and denominator. -/
def Parts.ratio (p : Parts) : Nat × Nat :=
  if 0 ≤ p.exponent then (p.mantissa * Nat.pow 2 p.exponent.toNat, 1)
  else (p.mantissa, Nat.pow 2 (-p.exponent).toNat)

/-- `num / den` rounded to the nearest integer, a tie going to the even neighbour. -/
def roundRatio (num den : Nat) : Nat :=
  let q := num / den
  let r := num % den
  if 2 * r > den || (2 * r == den && q % 2 == 1) then q + 1 else q

/-- The number of binary digits. -/
def bitLength (n : Nat) : Nat := if n = 0 then 0 else n.log2 + 1

/-- The binary number nearest to `num / den`, a tie going to the even neighbour; infinite if that is
past the largest finite one. -/
def nearestRatio (num den : Nat) : Float :=
  if num = 0 then 0.0
  else
    let rough := (bitLength num : Int) - bitLength den - 53
    let scaled (e : Int) : Nat × Nat :=
      if 0 ≤ e then (num, den * Nat.pow 2 e.toNat) else (num * Nat.pow 2 (-e).toNat, den)
    let first := scaled rough
    let e := if first.1 / first.2 ≥ Nat.pow 2 53 then rough + 1 else rough
    let e := if e < -1074 then -1074 else e
    let (n, d) := scaled e
    (Float.ofNat (roundRatio n d)).scaleB e

/-- The binary number nearest to the quotient of two integers, `den` not being zero. -/
def nearestQuotient (num den : Int) : Float :=
  let size := nearestRatio num.natAbs den.natAbs
  if (num < 0) != (den < 0) then -size else size

/-- The binary number nearest to an integer. -/
def nearestInt (n : Int) : Float := nearestQuotient n 1

end Copyedit.Decimal
