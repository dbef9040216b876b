import Copyedit.Decimal.Fixed

/-!
# Shortest decimal text

The decimal text of a binary number is the shortest one that reads back as the same number, and of the
shortest ones the nearest. It is positional while the leading digit stands between the fourth place
after the point and the sixteenth before it, and has an exponent of at least two digits otherwise.
-/

namespace Copyedit.Decimal

/-- The numbers that read back as a given one: between `low` and `high` over `den`, with the ends if
`closed`; `value` over `den` is the number itself. -/
structure Neighbourhood where
  /-- Lower end. -/
  low : Nat
  /-- The number itself. -/
  value : Nat
  /-- Upper end. -/
  high : Nat
  /-- The common denominator. -/
  den : Nat
  /-- Whether the ends read back as well. -/
  closed : Bool

/-- The neighbourhood of a nonzero number. -/
def Parts.neighbourhood (p : Parts) : Neighbourhood :=
  let up := Nat.pow 2 p.exponent.toNat
  { low := (4 * p.mantissa - (if p.narrowBelow then 1 else 2)) * up
    value := 4 * p.mantissa * up
    high := (4 * p.mantissa + 2) * up
    den := 4 * Nat.pow 2 (-p.exponent).toNat
    closed := p.mantissa % 2 == 0 }

/-- Whether `n * 10 ^ e` reads back. -/
def Neighbourhood.holds (b : Neighbourhood) (n : Nat) (e : Int) : Bool :=
  let x := n * Nat.pow 10 e.toNat * b.den
  let scale := Nat.pow 10 (-e).toNat
  if b.closed then b.low * scale ≤ x && x ≤ b.high * scale
  else b.low * scale < x && x < b.high * scale

/-- The least `e` with the number below `10 ^ e`, searched from `start` on. -/
def magnitude (b : Neighbourhood) : Nat → Int → Int
  | 0, e => e
  | fuel + 1, e =>
    if b.value * Nat.pow 10 (-e).toNat < Nat.pow 10 e.toNat * b.den then e
    else magnitude b fuel (e + 1)

/-- The digits on the grid of `count` digits that read back, if there are any, with the exponent of
their last place. -/
def onGrid (b : Neighbourhood) (mag : Int) (count : Nat) : Option (Nat × Int) :=
  let e := mag - count
  let num := b.value * Nat.pow 10 (-e).toNat
  let den := b.den * Nat.pow 10 e.toNat
  let below := num / den
  let nearest := roundRatio num den
  if b.holds nearest e then some (nearest, e)
  else if b.holds below e then some (below, e)
  else if b.holds (below + 1) e then some (below + 1, e)
  else none

/-- The fewest digits that read back, with the exponent of the last one. -/
def shortest (b : Neighbourhood) : Nat × Int :=
  let mag := magnitude b 700 (-330)
  ((List.range 17).findSome? fun k => onGrid b mag (k + 1)).getD (0, 0)

/-- Digits with a point or an exponent; `point` is the number of digits before the point. -/
def positional (digits : List Char) (point : Int) : String :=
  if -3 ≤ point && point ≤ 16 then
    if point ≤ 0 then
      "0." ++ String.ofList (List.replicate (-point).toNat '0' ++ digits)
    else
      let whole := digits.take point.toNat
      let rest := digits.drop point.toNat
      String.ofList (whole ++ List.replicate (point.toNat - whole.length) '0') ++ "." ++
        (if rest.isEmpty then "0" else String.ofList rest)
  else
    let e := point - 1
    let mantissa := match digits with
      | [] => "0"
      | d :: [] => String.ofList [d]
      | d :: rest => String.ofList (d :: '.' :: rest)
    mantissa ++ "e" ++ (if e < 0 then "-" else "+") ++ padded 2 e.natAbs

/-- The shortest decimal text that reads back as the number. -/
def text (x : Float) : String :=
  match parts? x with
  | none => if x.isNaN then "nan" else if x < 0 then "-inf" else "inf"
  | some p =>
    (if p.negative then "-" else "") ++
      if p.mantissa = 0 then "0.0"
      else
        let (n, e) := shortest p.neighbourhood
        let all := Nat.toDigits 10 n
        let digits := (all.reverse.dropWhile (· == '0')).reverse
        positional digits (e + all.length)

end Copyedit.Decimal
