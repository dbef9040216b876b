import Copyedit.Decimal.Integer
import Copyedit.Decimal.Read
import Copyedit.Text.Encoding
import Copyedit.Text.LetterCase
import Copyedit.Yaml.Cursor
import Copyedit.Yaml.Kind

/-!
# Values of scalars

The value that the text of a scalar stands for when its kind is known. A text that is not of the form that
its kind asks for has no value; what is wrong then depends on where the reading of it stops.
-/

namespace Copyedit.Yaml

/-! ### Numbers and truth values -/

/-- Fails because a text writes no number. -/
def noNumber {α : Type} : Except Fault α := .error (.failed (.value .noNumber))

/-- The integer that a text writes in a base. -/
def integerIn (base : Nat) (t : Text) : Except Fault Int :=
  match Decimal.integer? base t with
  | some n => .ok n
  | none => noNumber

/-- A number whose parts count in sixtieths of each other. -/
def sixtieths {α : Type} (zero : α) (add : α → Nat → α → α) (parts : List α) : α :=
  (parts.reverse.foldl (fun (sum, base) part => (add sum base part, base * 60)) (zero, 1)).1

/-- The integer that a text writes. -/
def integerOf (t : Text) : Except Fault Int := do
  let t := t.filter (· ≠ '_')
  if t.isEmpty then throw (.failed (.range .characters))
  let negative := t.head? = some '-'
  let body := withoutSign t
  let size ←
    if body = ['0'] then pure 0
    else match body with
      | '0' :: 'b' :: rest => integerIn 2 rest
      | '0' :: 'x' :: rest => integerIn 16 rest
      | '0' :: _ => integerIn 8 body
      | [] => throw (.failed (.range .characters))
      | _ =>
        if body.contains ':' then do
          let parts ← (body.splitAtChar ':').mapM (integerIn 10)
          pure (sixtieths 0 (fun sum base part => sum + part * base) parts)
        else integerIn 10 body
  return if negative then -size else size

/-- The number that a part of a text writes. -/
def floatPart (t : Text) : Except Fault Float :=
  match Decimal.read? t with
  | some x => .ok x
  | none => noNumber

/-- The number with a fraction that a text writes. -/
def floatOf (t : Text) : Except Fault Float := do
  let t := Text.lower (t.filter (· ≠ '_'))
  if t.isEmpty then throw (.failed (.range .characters))
  let negative := t.head? = some '-'
  let body := withoutSign t
  let size ←
    if body = ".inf".toList then pure (1.0 / 0.0)
    else if body = ".nan".toList then pure (0.0 / 0.0)
    else if body.contains ':' then do
      let parts ← (body.splitAtChar ':').mapM floatPart
      pure (sixtieths 0.0 (fun sum base part => sum + part * Float.ofNat base) parts)
    else floatPart body
  return if negative then -size else size

/-- The truth value that a text names. -/
def truthOf (t : Text) : Except Fault Bool :=
  let name := Text.lower t
  if ["yes", "true", "on"].any fun w => name = w.toList then .ok true
  else if ["no", "false", "off"].any fun w => name = w.toList then .ok false
  else .error (.failed (.key (String.ofList name.quoted)))

/-! ### Dates and times -/

/-- A day of the calendar. -/
def dateOf (parts : Text × Text × Text) : Except Fault Date :=
  let (year, month, day) := (numberOf parts.1, numberOf parts.2.1, numberOf parts.2.2)
  if 1 ≤ year && 1 ≤ month && month ≤ 12 && 1 ≤ day && day ≤ Date.daysIn year month then
    .ok ⟨year, month, day⟩
  else .error (.failed (.value .noSuchTime))

/-- The minutes east of universal time that a zone tells. -/
def offsetOf : Option (Char × Text × Text) → Except Fault Int
  | none => .ok 0
  | some (sign, hours, minutes) =>
    let n := numberOf hours * 60 + numberOf minutes
    if n < 24 * 60 then .ok (if sign = '-' then -(n : Int) else n)
    else .error (.failed (.value .noSuchTime))

/-- The date or the time that a text writes. -/
def timeOf (t : Text) : Except Fault Value := do
  match timeParts? (withoutFinalBreak t) with
  | none => throw (.failed (.lacks "NoneType" "groupdict"))
  | some p =>
    match p.time with
    | none => return .date (← dateOf p.date)
    | some (hour, minute, second, fraction) =>
      let offset ← p.zone.mapM offsetOf
      let date ← dateOf p.date
      let (hour, minute, second) := (numberOf hour, numberOf minute, numberOf second)
      if hour ≥ 24 || minute ≥ 60 || second ≥ 60 then throw (.failed (.value .noSuchTime))
      let micros := numberOf ((fraction ++ List.replicate 6 '0').take 6)
      return .moment { date, hour, minute, second, micros, offset }

/-! ### Bytes -/

/-- The value of a character in the alphabet of 64. -/
def sextet? (c : Char) : Option Nat :=
  if 'A' ≤ c && c ≤ 'Z' then some (c.toNat - 65)
  else if 'a' ≤ c && c ≤ 'z' then some (c.toNat - 71)
  else if '0' ≤ c && c ≤ '9' then some (c.toNat + 4)
  else if c = '+' then some 62
  else if c = '/' then some 63
  else none

/-- The bytes that groups of four characters stand for. `group` holds the characters of the group so
far and `pads` the number of fill characters after them; other characters do not count. -/
def bytesFrom (group : List Nat) (pads : Nat) : Text → Except Fault Bytes
  | [] => if group.isEmpty then .ok [] else .error .malformed
  | c :: rest =>
    if c = '=' then
      if 2 ≤ group.length then
        if 4 ≤ group.length + pads + 1 then .ok [] else bytesFrom group (pads + 1) rest
      else bytesFrom group pads rest
    else match sextet? c, group with
      | none, _ => bytesFrom group pads rest
      | some n, [] => bytesFrom [n] 0 rest
      | some n, [a] => do return (a * 4 + n / 16) :: (← bytesFrom [a, n] 0 rest)
      | some n, [a, b] => do return (b % 16 * 16 + n / 4) :: (← bytesFrom [a, b, n] 0 rest)
      | some n, _ :: _ :: c :: _ => do return (c % 4 * 64 + n) :: (← bytesFrom [] 0 rest)

/-- The bytes that a text of ASCII characters stands for. -/
def bytesOf (t : Text) : Except Fault Bytes :=
  if t.all (·.toNat < 128) then bytesFrom [] 0 t else .error .malformed

/-! ### Scalars of all kinds -/

/-- The value of a scalar; none of the kinds that are left is one of scalars. -/
def scalarValue (k : Kind) (t : Text) : Except Fault Value :=
  match k with
  | .null => .ok .null
  | .bool => do return .bool (← truthOf t)
  | .int => do return .int (← integerOf t)
  | .float => do return .real (← floatOf t)
  | .binary => do return .bytes (← bytesOf t)
  | .timestamp => timeOf t
  | .text => .ok (.text (String.ofList t))
  | _ => .error .malformed

end Copyedit.Yaml
