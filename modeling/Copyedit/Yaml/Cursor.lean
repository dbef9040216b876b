import Copyedit.Error
import Copyedit.Text.Basic

/-!
# Reading position

A cursor is what is left of a document, with the line and the column that have been reached. The scanners
take a cursor and return one that is further on.
-/

namespace Copyedit.Yaml

/-- Why a document cannot be read. -/
inductive Fault where
  /-- It does not follow the format. -/
  | malformed
  /-- It does, but a value in it cannot be made. -/
  | failed (e : Error)

/-- Whether a character ends a line. -/
def isBreak (c : Char) : Bool := c = '\n' || c = '\x85' || c = '\u2028' || c = '\u2029'

/-- Whether a character is a space or a tab. -/
def isSpace (c : Char) : Bool := c = ' ' || c = '\t'

/-- Whether a character ends a line or is a space or a tab. -/
def isGap (c : Char) : Bool := isSpace c || isBreak c

/-- The mark of byte order. -/
def byteOrderMark : Char := '\uFEFF'

/-- Whether a character may stand in a document. -/
def isAllowed (c : Char) : Bool :=
  let n := c.toNat
  n = 9 || n = 10 || n = 13 || (0x20 ≤ n && n < 0x7F) || n = 0x85 || (0xA0 ≤ n && n < 0xFFFE) ||
    0x10000 ≤ n

/-- What is left of a document. -/
structure Cursor where
  /-- The text. -/
  rest : Text
  /-- How many characters have been read. -/
  index : Nat := 0
  /-- The line that has been reached, from 0. -/
  line : Nat := 0
  /-- The column that has been reached, from 0. -/
  column : Nat := 0

namespace Cursor

/-- The cursor after one more character. Marks of byte order take no column. -/
def step (c : Cursor) : Cursor :=
  match c.rest with
  | [] => c
  | x :: rest =>
    if isBreak x then ⟨rest, c.index + 1, c.line + 1, 0⟩
    else ⟨rest, c.index + 1, c.line, if x = byteOrderMark then c.column else c.column + 1⟩

/-- The cursor after `n` more characters. -/
def advance (c : Cursor) : Nat → Cursor
  | 0 => c
  | n + 1 => c.step.advance n

/-- The next character. -/
def next? (c : Cursor) : Option Char := c.rest.head?

/-- Whether the next character is this one. -/
def at_ (c : Cursor) (x : Char) : Bool := c.next? == some x

/-- Whether the next character satisfies `p`. -/
def nextIs (c : Cursor) (p : Char → Bool) : Bool := (c.next?.map p).getD false

/-- Whether the text ends here. -/
def isAtEnd (c : Cursor) : Bool := c.rest.isEmpty

/-- Whether the text ends here or the line does. -/
def isAtLineEnd (c : Cursor) : Bool := c.isAtEnd || c.nextIs isBreak

/-- Whether the text ends `n` characters on or there is a gap. -/
def isGapAt (c : Cursor) (n : Nat) : Bool := ((c.rest[n]?).map isGap).getD true

/-- The longest stretch of characters that satisfy `p`, and the cursor after it. -/
def span (c : Cursor) (p : Char → Bool) : Text × Cursor :=
  let run := c.rest.takeWhile p
  (run, c.advance run.length)

/-- The cursor after all characters that satisfy `p`. -/
def skip (c : Cursor) (p : Char → Bool) : Cursor := (c.span p).2

/-- The cursor after spaces. -/
def skipSpaces (c : Cursor) : Cursor := c.skip (· = ' ')

/-- The cursor after a comment, if one starts here. -/
def skipComment (c : Cursor) : Cursor := if c.at_ '#' then c.skip (!isBreak ·) else c

/-- A line end as it is kept in a scalar, and the cursor after it; empty if the line does not end. -/
def lineBreak (c : Cursor) : Text × Cursor :=
  match c.rest with
  | x :: _ =>
    if x = '\u2028' || x = '\u2029' then ([x], c.step)
    else if isBreak x then (['\n'], c.step)
    else ([], c)
  | [] => ([], c)

/-- Whether a line starts here that separates documents. -/
def isAtSeparator (c : Cursor) : Bool :=
  (c.rest.take 3 == ['-', '-', '-'] || c.rest.take 3 == ['.', '.', '.']) && c.isGapAt 3

/-- The cursor at the next line, if nothing but spaces and a comment are left of this one. -/
def endLine (c : Cursor) : Except Fault Cursor :=
  let c := c.skipSpaces.skipComment
  if c.isAtLineEnd then .ok c.lineBreak.2 else .error .malformed

end Cursor

end Copyedit.Yaml
