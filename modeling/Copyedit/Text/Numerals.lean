import Copyedit.Text.Letters

/-!
# Numerals

Three nested kinds of numerals: decimal digits (general category Nd, in runs of ten that start at a
zero), digits (also superscripts and circled digits), and other numerals (fractions, Roman numerals
and the like). Together with the letters they are the alphanumeric characters, and with the underscore
the characters of a word.
-/

namespace Copyedit

/-- The zeros of all runs of ten decimal digits, ASCII first. -/
def decimalZeros : List Nat := [
  0x30, 0x660, 0x6f0, 0x7c0, 0x966, 0x9e6, 0xa66, 0xae6, 0xb66, 0xbe6, 0xc66, 0xce6, 0xd66,
  0xde6, 0xe50, 0xed0, 0xf20, 0x1040, 0x1090, 0x17e0, 0x1810, 0x1946, 0x19d0, 0x1a80, 0x1a90,
  0x1b50, 0x1bb0, 0x1c40, 0x1c50, 0xa620, 0xa8d0, 0xa900, 0xa9d0, 0xa9f0, 0xaa50, 0xabf0, 0xff10,
  0x104a0, 0x10d30, 0x11066, 0x110f0, 0x11136, 0x111d0, 0x112f0, 0x11450, 0x114d0, 0x11650,
  0x116c0, 0x11730, 0x118e0, 0x11950, 0x11c50, 0x11d50, 0x11da0, 0x16a60, 0x16ac0, 0x16b50,
  0x1d7ce, 0x1d7d8, 0x1d7e2, 0x1d7ec, 0x1d7f6, 0x1e140, 0x1e2f0, 0x1e950, 0x1fbf0]

/-- The value of a decimal digit of any script. -/
def decimalValue? (c : Char) : Option Nat :=
  (decimalZeros.find? fun z => z ≤ c.toNat && c.toNat < z + 10).map (c.toNat - ·)

/-- The decimal digits of ASCII. -/
def isAsciiDigit (c : Char) : Bool := '0' ≤ c && c ≤ '9'

/-- Whether a character is a decimal digit of some script. -/
def isDecimal (c : Char) : Bool :=
  if c.toNat < 128 then isAsciiDigit c else (decimalValue? c).isSome

/-- The code points where a stretch of digits that are not decimal begins or ends. -/
def otherDigitBounds : List Nat := [
  0xb2, 0xb4, 0xb9, 0xba, 0x1369, 0x1372, 0x19da, 0x19db, 0x2070, 0x2071, 0x2074, 0x207a, 0x2080,
  0x208a, 0x2460, 0x2469, 0x2474, 0x247d, 0x2488, 0x2491, 0x24ea, 0x24eb, 0x24f5, 0x24fe, 0x24ff,
  0x2500, 0x2776, 0x277f, 0x2780, 0x2789, 0x278a, 0x2793, 0x10a40, 0x10a44, 0x10e60, 0x10e69,
  0x11052, 0x1105b, 0x1f100, 0x1f10b]

/-- Whether a character is a digit: a decimal digit, or a digit set in another form. -/
def isDigit (c : Char) : Bool :=
  isDecimal c || (128 ≤ c.toNat && CodeSet.contains ⟨otherDigitBounds⟩ c.toNat)

/-- The code points where a stretch of numerals that are neither digits nor letters begins or ends. -/
def otherNumeralBounds : List Nat := [
  0xbc, 0xbf, 0x9f4, 0x9fa, 0xb72, 0xb78, 0xbf0, 0xbf3, 0xc78, 0xc7f, 0xd58, 0xd5f, 0xd70, 0xd79,
  0xf2a, 0xf34, 0x1372, 0x137d, 0x16ee, 0x16f1, 0x17f0, 0x17fa, 0x2150, 0x2183, 0x2185, 0x218a,
  0x2469, 0x2474, 0x247d, 0x2488, 0x2491, 0x249c, 0x24eb, 0x24f5, 0x24fe, 0x24ff, 0x277f, 0x2780,
  0x2789, 0x278a, 0x2793, 0x2794, 0x2cfd, 0x2cfe, 0x3007, 0x3008, 0x3021, 0x302a, 0x3038, 0x303b,
  0x3192, 0x3196, 0x3220, 0x322a, 0x3248, 0x3250, 0x3251, 0x3260, 0x3280, 0x328a, 0x32b1, 0x32c0,
  0xa6e6, 0xa6f0, 0xa830, 0xa836, 0x10107, 0x10134, 0x10140, 0x10179, 0x1018a, 0x1018c, 0x102e1,
  0x102fc, 0x10320, 0x10324, 0x10341, 0x10342, 0x1034a, 0x1034b, 0x103d1, 0x103d6, 0x10858,
  0x10860, 0x10879, 0x10880, 0x108a7, 0x108b0, 0x108fb, 0x10900, 0x10916, 0x1091c, 0x109bc,
  0x109be, 0x109c0, 0x109d0, 0x109d2, 0x10a00, 0x10a44, 0x10a49, 0x10a7d, 0x10a7f, 0x10a9d,
  0x10aa0, 0x10aeb, 0x10af0, 0x10b58, 0x10b60, 0x10b78, 0x10b80, 0x10ba9, 0x10bb0, 0x10cfa,
  0x10d00, 0x10e69, 0x10e7f, 0x10f1d, 0x10f27, 0x10f51, 0x10f55, 0x10fc5, 0x10fcc, 0x1105b,
  0x11066, 0x111e1, 0x111f5, 0x1173a, 0x1173c, 0x118ea, 0x118f3, 0x11c5a, 0x11c6d, 0x11fc0,
  0x11fd5, 0x12400, 0x1246f, 0x16b5b, 0x16b62, 0x16e80, 0x16e97, 0x1d2e0, 0x1d2f4, 0x1d360,
  0x1d379, 0x1e8c7, 0x1e8d0, 0x1ec71, 0x1ecac, 0x1ecad, 0x1ecb0, 0x1ecb1, 0x1ecb5, 0x1ed01,
  0x1ed2e, 0x1ed2f, 0x1ed3e, 0x1f10b, 0x1f10d]

/-- Whether a character is alphanumeric: a letter, a digit or another numeral. -/
def isAlphanumeric (c : Char) : Bool :=
  isLetter c || isDigit c || (128 ≤ c.toNat && CodeSet.contains ⟨otherNumeralBounds⟩ c.toNat)

/-- Whether a character may stand in a word: an alphanumeric character or the underscore. -/
def isWordChar (c : Char) : Bool := isAlphanumeric c || c == '_'

/-- The number that decimal digits of any script write. -/
def numberOf (digits : List Char) : Nat :=
  digits.foldl (fun n c => 10 * n + (decimalValue? c).getD 0) 0

/-- The value of a hexadecimal digit. -/
def hexValue? (c : Char) : Option Nat :=
  if '0' ≤ c && c ≤ '9' then some (c.toNat - 48)
  else if 'a' ≤ c && c ≤ 'f' then some (c.toNat - 87)
  else if 'A' ≤ c && c ≤ 'F' then some (c.toNat - 55)
  else none

/-- The number that hexadecimal digits write. -/
def hexNumber? (digits : List Char) : Option Nat :=
  digits.foldlM (fun n c => (hexValue? c).map (16 * n + ·)) 0

end Copyedit
