/-!
# Blank characters

The characters that separate words: the controls from tab to carriage return and from the file to
the unit separator, the next-line control, and the space and line separators of all scripts.
-/

namespace Copyedit

/-- The stretches of blank characters, each with its first and last code point. -/
def blankRanges : List (Nat × Nat) := [
  (0x9, 0xd), (0x1c, 0x20), (0x85, 0x85), (0xa0, 0xa0), (0x1680, 0x1680), (0x2000, 0x200a),
  (0x2028, 0x2029), (0x202f, 0x202f), (0x205f, 0x205f), (0x3000, 0x3000)]

/-- Whether a character is blank. -/
def isBlank (c : Char) : Bool := blankRanges.any fun r => r.1 ≤ c.toNat && c.toNat ≤ r.2

end Copyedit
