import Copyedit.Text.Basic

/-!
# Encodings

How bytes become a text, and how a text becomes lines. Bytes that an encoding does not allow leave no
text at all. A line ends at a newline; a carriage return, alone or before a newline, counts as one.
-/

namespace Copyedit

/-- Bytes by their values. -/
abbrev Bytes := List Nat

/-- How characters are written as bytes. -/
inductive Encoding where
  /-- One to four bytes a character. -/
  | utf8
  /-- The same; a mark at the start is left out. -/
  | utf8Marked
  /-- One byte a character, the code of the character. -/
  | latin1
  /-- One byte a character, below 128. -/
  | ascii
  /-- Two or four bytes a character; a mark at the start tells their order. -/
  | utf16
  deriving DecidableEq, Repr

namespace Encoding

/-- The name of an encoding. -/
def name : Encoding → String
  | utf8 => "utf-8"
  | utf8Marked => "utf-8-sig"
  | latin1 => "latin-1"
  | ascii => "ascii"
  | utf16 => "utf-16"

/-- The encoding with a name. -/
def ofName? (name : String) : Option Encoding :=
  [utf8, utf8Marked, latin1, ascii, utf16].find? (·.name == name)

/-- The bits that a continuation byte adds to a character. -/
def continuation? (b : Nat) : Option Nat := if b / 64 = 2 then some (b % 64) else none

/-- A character from a code that must lie in a range and be that of a character. -/
def charFrom? (least code : Nat) : Option Char :=
  if h : least ≤ code ∧ code.isValidChar then some (Char.ofNatAux code h.2) else none

/-- Decodes one to four bytes a character. -/
def decode8? : Bytes → Option Text
  | [] => some []
  | a :: rest =>
    if a < 0x80 then do return Char.ofNat a :: (← decode8? rest)
    else if 0xC0 ≤ a ∧ a < 0xE0 then
      match rest with
      | b :: rest => do
        let c ← charFrom? 0x80 (a % 32 * 64 + (← continuation? b))
        return c :: (← decode8? rest)
      | _ => none
    else if 0xE0 ≤ a ∧ a < 0xF0 then
      match rest with
      | b :: c :: rest => do
        let d ← charFrom? 0x800 ((a % 16 * 64 + (← continuation? b)) * 64 + (← continuation? c))
        return d :: (← decode8? rest)
      | _ => none
    else if 0xF0 ≤ a ∧ a < 0xF8 then
      match rest with
      | b :: c :: d :: rest => do
        let e ← charFrom? 0x10000
          (((a % 8 * 64 + (← continuation? b)) * 64 + (← continuation? c)) * 64 +
            (← continuation? d))
        return e :: (← decode8? rest)
      | _ => none
    else none

/-- Decodes units of 16 bits, two of which may make a character. -/
def decodeUnits? : List Nat → Option Text
  | [] => some []
  | a :: rest =>
    if 0xD800 ≤ a ∧ a < 0xDC00 then
      match rest with
      | b :: rest =>
        if 0xDC00 ≤ b ∧ b < 0xE000 then do
          let c ← charFrom? 0x10000 (0x10000 + (a - 0xD800) * 0x400 + (b - 0xDC00))
          return c :: (← decodeUnits? rest)
        else none
      | [] => none
    else do
      let c ← charFrom? 0 a
      return c :: (← decodeUnits? rest)

/-- Pairs of bytes as units of 16 bits, without a byte that is left over. `high` tells whether the first
byte of a pair is the high one. -/
def units (high : Bool) : Bytes → List Nat
  | a :: b :: rest => (if high then a * 256 + b else b * 256 + a) :: units high rest
  | _ => []

/-- Decodes all bytes in units of 16 bits. -/
def decode16? (high : Bool) (bytes : Bytes) : Option Text :=
  if bytes.length % 2 = 0 then decodeUnits? (units high bytes) else none

/-- The units up to a last one that begins a character. -/
def wholeUnits (us : List Nat) : List Nat :=
  match us.getLast? with
  | some u => if 0xD800 ≤ u ∧ u < 0xDC00 then us.dropLast else us
  | none => us

/-- Why bytes are no text. -/
inductive Fault where
  /-- Bytes that the encoding does not allow. -/
  | malformed
  /-- No mark that tells the order of the bytes. -/
  | unmarked
  deriving DecidableEq, Repr

/-- The text, unless there is none. -/
def orMalformed (t : Option Text) : Except Fault Text :=
  match t with
  | some t => .ok t
  | none => .error .malformed

/-- What bytes without a mark are: whole characters lack the mark, and anything else is malformed. -/
def decodeUnmarked (bytes : Bytes) : Except Fault Text :=
  match decodeUnits? (wholeUnits (units false bytes)) with
  | some (_ :: _) => .error .unmarked
  | some [] => if bytes.isEmpty then .ok [] else .error .malformed
  | none => .error .malformed

/-- The text that bytes stand for. -/
def decode (e : Encoding) (bytes : Bytes) : Except Fault Text :=
  match e with
  | utf8 => orMalformed (decode8? bytes)
  | utf8Marked => match bytes with
    | 0xEF :: 0xBB :: 0xBF :: rest => orMalformed (decode8? rest)
    | [0xEF, 0xBB] | [0xEF] => .ok []
    | _ => orMalformed (decode8? bytes)
  | latin1 => .ok (bytes.map Char.ofNat)
  | ascii => if bytes.all (· < 128) then .ok (bytes.map Char.ofNat) else .error .malformed
  | utf16 => match bytes with
    | 0xFE :: 0xFF :: rest => orMalformed (decode16? true rest)
    | 0xFF :: 0xFE :: rest => orMalformed (decode16? false rest)
    | _ => decodeUnmarked bytes

end Encoding

namespace Text

/-- Every line end as a newline. -/
def withNewlines : Text → Text
  | [] => []
  | '\r' :: '\n' :: rest => '\n' :: withNewlines rest
  | '\r' :: rest => '\n' :: withNewlines rest
  | c :: rest => c :: withNewlines rest

/-- The lines, without their ends; what follows the last newline is a line unless it is empty. -/
def lines (t : Text) : List Text :=
  let parts := t.splitAtChar '\n'
  if parts.getLast? = some [] then parts.dropLast else parts

end Text

end Copyedit
