import Copyedit.Decimal.Binary
import Copyedit.Decimal.Integer
import Copyedit.Text.Basic
import Copyedit.Text.LetterCase
import Copyedit.Text.Numerals

/-!
# Reading decimal numbers

A decimal number is written with a sign, digits of any script with an optional point among them, and an
optional exponent; single underscores may separate digits, and the words for infinity and for what is no
number are read as well. Blanks around a number do not count. What is read is the binary number nearest
to what is written.
-/

namespace Copyedit.Decimal

/-- The digits that a text starts with, single underscores between them left out, and what follows. -/
def digitRun (afterDigit : Bool) : Text → Text × Text
  | [] => ([], [])
  | c :: rest =>
    if isDecimal c then (c :: (digitRun true rest).1, (digitRun true rest).2)
    else if c = '_' && afterDigit && (rest.head?.map isDecimal).getD false then digitRun false rest
    else ([], c :: rest)

/-- An exponent at the end of a number; an empty text is the exponent 0. -/
def exponent? : Text → Option Int
  | [] => some 0
  | c :: rest =>
    let (negative, body) := splitSign rest
    let (digits, after) := digitRun false body
    if (c = 'e' || c = 'E') && !digits.isEmpty && after.isEmpty then
      some (if negative then -(numberOf digits : Int) else numberOf digits)
    else none

/-- No binary number has a magnitude above ten to this power or below its inverse. -/
def exponentLimit : Int := 400

/-- The binary number nearest to `digits` times ten to the power `e`. -/
def nearestScaled (digits : Text) (e : Int) : Float :=
  let n := numberOf digits
  if n = 0 then 0.0
  else if digits.length + e < -exponentLimit then 0.0
  else if (bitLength n : Int) / 4 + e > exponentLimit then 1.0 / 0.0
  else if 0 ≤ e then nearestRatio (n * Nat.pow 10 e.toNat) 1
  else nearestRatio n (Nat.pow 10 (-e).toNat)

/-- The number without its sign. -/
def unsigned? (body : Text) : Option Float :=
  let (whole, rest) := digitRun false body
  let (fraction, rest) := match rest with
    | '.' :: rest => digitRun false rest
    | _ => ([], rest)
  if whole.isEmpty && fraction.isEmpty then none
  else (exponent? rest).map fun e => nearestScaled (whole ++ fraction) (e - fraction.length)

/-- The number that a text writes. -/
def read? (t : Text) : Option Float :=
  let (negative, body) := splitSign (unpadded t)
  let size :=
    if ["inf".toList, "infinity".toList].contains body.lower then some (1.0 / 0.0)
    else if body.lower = "nan".toList then some (0.0 / 0.0)
    else unsigned? body
  size.map fun x => if negative then -x else x

end Copyedit.Decimal
