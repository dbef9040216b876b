import Copyedit.Text.Basic
import Copyedit.Text.Printable

/-!
# Quoted text

Messages quote texts so that every character is visible: in single quotes, or in double quotes if the
text holds a single quote and no double quote; backslashes, the quote itself and what is not printable
are escaped.
-/

namespace Copyedit

/-- A hexadecimal digit in lower case. -/
def hexDigit (n : Nat) : Char := if n < 10 then Char.ofNat (48 + n) else Char.ofNat (87 + n)

/-- The last `width` hexadecimal digits of a number. -/
def hexDigits : Nat → Nat → Text
  | 0, _ => []
  | width + 1, n => hexDigits width (n / 16) ++ [hexDigit (n % 16)]

namespace Text

/-- The quote for a text: single, unless that would have to be escaped and double would not. -/
def quoteMark (t : Text) : Char := if t.contains '\'' && !t.contains '"' then '"' else '\''

/-- One character between quotes. -/
def escapeChar (mark c : Char) : Text :=
  if c = mark || c = '\\' then ['\\', c]
  else if c = '\n' then ['\\', 'n']
  else if c = '\r' then ['\\', 'r']
  else if c = '\t' then ['\\', 't']
  else if isPrintable c then [c]
  else if c.toNat < 0x100 then '\\' :: 'x' :: hexDigits 2 c.toNat
  else if c.toNat < 0x10000 then '\\' :: 'u' :: hexDigits 4 c.toNat
  else '\\' :: 'U' :: hexDigits 8 c.toNat

/-- The text in quotes, every character visible. -/
def quoted (t : Text) : Text :=
  quoteMark t :: t.flatMap (escapeChar (quoteMark t)) ++ [quoteMark t]

end Text

/-- A string in quotes, every character visible. -/
def quoteString (s : String) : String := String.ofList (Text.quoted s.toList)

end Copyedit
