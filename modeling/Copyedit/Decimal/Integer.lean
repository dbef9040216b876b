import Copyedit.Text.Basic
import Copyedit.Text.Numerals

/-!
# Reading integers

An integer is written with a sign and digits, in the base that is asked for; the decimal digits of any
script count as digits. Single underscores may separate digits, blanks around the integer do not count, and
bases that are powers of two may be marked by a zero and a letter in front of the digits. In base ten there
is a limit on the number of digits, in reading as in writing.
-/

namespace Copyedit.Decimal

/-- The most digits with which an integer is read or written in base ten. -/
def digitLimit : Nat := 4300

/-- Whether an integer is short enough to be written in base ten. -/
def isWritable (n : Int) : Bool := n.natAbs < Nat.pow 10 digitLimit

/-- Whether a character may stand around a number: a blank, but none of the four separators of data. -/
def mayPad (c : Char) : Bool := isBlank c && !(28 ≤ c.toNat && c.toNat ≤ 31)

/-- The text without the blanks around a number. -/
def unpadded (t : Text) : Text := Text.dropEndWhile mayPad (t.dropWhile mayPad)

/-- The value of a digit, letters being the digits from ten on. -/
def digitValue? (c : Char) : Option Nat :=
  match decimalValue? c with
  | some n => some n
  | none =>
    if 'a' ≤ c && c ≤ 'z' then some (c.toNat - 87)
    else if 'A' ≤ c && c ≤ 'Z' then some (c.toNat - 55)
    else none

/-- The digits in a base that a text consists of, single underscores between them left out. -/
def digitsIn? (base : Nat) (afterDigit : Bool) : Text → Option (List Nat)
  | [] => if afterDigit then some [] else none
  | c :: rest =>
    if c = '_' && afterDigit then digitsIn? base false rest
    else match digitValue? c with
      | some d => if d < base then (digitsIn? base true rest).map (d :: ·) else none
      | none => none

/-- The letters that mark a base. -/
def baseMarks : Nat → List Char
  | 2 => ['b', 'B']
  | 8 => ['o', 'O']
  | 16 => ['x', 'X']
  | _ => []

/-- The text without a mark of the base at its start. -/
def withoutBaseMark (base : Nat) : Text → Text
  | '0' :: c :: rest => if (baseMarks base).contains c then rest else '0' :: c :: rest
  | t => t

/-- The text without a sign at its start, and whether the sign was a minus. -/
def splitSign : Text → Bool × Text
  | '+' :: rest => (false, rest)
  | '-' :: rest => (true, rest)
  | t => (false, t)

/-- The integer that a text writes in a base. -/
def integer? (base : Nat) (t : Text) : Option Int := do
  let (negative, body) := splitSign (unpadded t)
  let digits ← digitsIn? base false (withoutBaseMark base body)
  if base = 10 && digitLimit < digits.length then none
  else
    let n := digits.foldl (fun n d => base * n + d) 0
    some (if negative then -n else n)

end Copyedit.Decimal
