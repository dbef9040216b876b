import Copyedit.Decimal.Binary

/-!
# Fixed places

Scores are written with a fixed number of decimal places: the exact value of the binary number is
rounded to the nearest multiple of the last place, a tie going to the even neighbour.
-/

namespace Copyedit.Decimal

/-- The decimal digits of a number, padded with zeros in front to at least `width`. -/
def padded (width n : Nat) : String :=
  let digits := Nat.toDigits 10 n
  String.ofList (List.replicate (width - digits.length) '0' ++ digits)

/-- A number with `places` decimal places. What rounds to zero has no sign. -/
def fixed (places : Nat) (x : Float) : String :=
  match parts? x with
  | none => if x.isNaN then "nan" else if x < 0 then "-inf" else "inf"
  | some p =>
    let (num, den) := p.ratio
    let scale := Nat.pow 10 places
    let units := roundRatio (num * scale) den
    let sign := if p.negative && units != 0 then "-" else ""
    sign ++ toString (units / scale) ++ "." ++ padded places (units % scale)

end Copyedit.Decimal
