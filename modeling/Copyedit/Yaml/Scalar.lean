import Copyedit.Decimal.Read
import Copyedit.Text.Numerals
import Copyedit.Yaml.Cursor

/-!
# Scalars

A scalar is written plainly, in single or double quotes, or as a block of indented lines. Line ends
inside a scalar are folded: a single one becomes a space, and of several the first is left out. In a
block they are kept, unless the block is marked as folded.
-/

namespace Copyedit.Yaml

/-! ### Plain scalars -/

/-- The characters that end a plain scalar inside brackets. -/
def flowMarks : List Char := [',', '?', '[', ']', '\x7b', '\x7d']

/-- The characters that a colon may stand before inside brackets. -/
def flowClosers : List Char := [',', '[', ']', '\x7b', '\x7d']

/-- The stretch of a plain scalar on one line up to a gap, or up to a colon that ends it. -/
def plainRun (inFlow : Bool) : Text → Text
  | [] => []
  | c :: rest =>
    let colonEnds := match rest with
      | [] => true
      | d :: _ => isGap d || (inFlow && flowClosers.contains d)
    if isGap c || (c = ':' && colonEnds) || (inFlow && flowMarks.contains c) then []
    else c :: plainRun inFlow rest

/-- Line ends, with the spaces around them left out, and the cursor after them; none before a separator
of documents. -/
def plainBreaks (c : Cursor) : Nat → Option (Text × Cursor)
  | 0 => some ([], c)
  | left + 1 =>
    if c.at_ ' ' then plainBreaks c.step left
    else if c.nextIs isBreak then
      let (br, c) := c.lineBreak
      if c.isAtSeparator then none
      else (plainBreaks c left).map fun (brs, c) => (br ++ brs, c)
    else some ([], c)

/-- A line end followed by others, folded. -/
def foldBreaks (first others : Text) : Text :=
  (if first ≠ ['\n'] then first else if others.isEmpty then [' '] else []) ++ others

/-- The gap after a stretch of a plain scalar: what it stands for, whether it holds a line end, and the
cursor after it. -/
def plainGap (c : Cursor) : Text × Bool × Cursor :=
  let (spaces, c) := c.span (· = ' ')
  if c.nextIs isBreak then
    let (first, c) := c.lineBreak
    if c.isAtSeparator then ([], true, c)
    else match plainBreaks c c.rest.length with
      | some (others, c) => (foldBreaks first others, true, c)
      | none => ([], true, c)
  else (spaces, false, c)

/-- A plain scalar from here on: its text, whether a line end comes last, and the cursor after it. `gap`
stands before the next stretch. Lines must be indented to `indent` outside of brackets. -/
def plainFrom (inFlow : Bool) (indent : Int) (gap : Text) (broken : Bool) (c : Cursor) :
    Nat → Text × Bool × Cursor
  | 0 => ([], broken, c)
  | left + 1 =>
    let run := plainRun inFlow c.rest
    if c.at_ '#' || run.isEmpty then ([], broken, c)
    else
      let (next, brk, after) := plainGap (c.advance run.length)
      if next.isEmpty || after.at_ '#' || (!inFlow && (after.column : Int) < indent) then
        (gap ++ run, brk, after)
      else
        let (more, brk, after) := plainFrom inFlow indent next brk after left
        (gap ++ run ++ more, brk, after)

/-- A plain scalar. -/
def plainScalar (inFlow : Bool) (indent : Int) (c : Cursor) : Text × Bool × Cursor :=
  plainFrom inFlow indent [] false c (c.rest.length + 1)

/-! ### Quoted scalars -/

/-- Line ends inside quotes with the spaces around them left out. -/
def quotedBreaks (c : Cursor) : Nat → Except Fault (Text × Cursor)
  | 0 => .ok ([], c)
  | left + 1 =>
    if c.isAtSeparator then .error .malformed
    else
      let c := c.skip isSpace
      if c.nextIs isBreak then do
        let (br, c) := c.lineBreak
        let (brs, c) ← quotedBreaks c left
        return (br ++ brs, c)
      else .ok ([], c)

/-- The characters that have an escape of one letter. -/
def escapes : List (Char × Char) :=
  [('0', '\x00'), ('a', '\x07'), ('b', '\x08'), ('t', '\t'), ('\t', '\t'), ('n', '\n'),
    ('v', '\x0b'), ('f', '\x0c'), ('r', '\x0d'), ('e', '\x1b'), (' ', ' '), ('"', '"'),
    ('\\', '\\'), ('/', '/'), ('N', '\x85'), ('_', '\xa0'), ('L', '\u2028'), ('P', '\u2029')]

/-- The number of hexadecimal digits of a numeric escape. -/
def escapeWidth? : Char → Option Nat
  | 'x' => some 2
  | 'u' => some 4
  | 'U' => some 8
  | _ => none

/-- The character with a code. -/
def charOf (code : Nat) : Except Fault Char :=
  if code > 0x7FFFFFFF then .error (.failed (.overflow .code))
  else if h : code.isValidChar then .ok (Char.ofNatAux code h)
  else .error (.failed (.value .noCharacter))

/-- What an escape stands for; the cursor is after the backslash. -/
def escape (c : Cursor) : Except Fault (Text × Cursor) :=
  match c.rest with
  | [] => .error .malformed
  | x :: rest =>
    match escapes.lookup x with
    | some y => .ok ([y], c.step)
    | none =>
      match escapeWidth? x with
      | some width =>
        let digits := rest.take width
        if digits.length < width then .error .malformed
        else match hexNumber? digits with
          | some code => do return ([← charOf code], c.advance (width + 1))
          | none => .error .malformed
      | none =>
        if isBreak x then
          let after := c.lineBreak.2
          quotedBreaks after (after.rest.length + 1)
        else .error .malformed

/-- A quoted scalar from here to the closing quote. -/
def quotedFrom (double : Bool) (c : Cursor) : Nat → Except Fault (Text × Cursor)
  | 0 => .error .malformed
  | left + 1 =>
    match c.rest with
    | [] => .error .malformed
    | x :: rest =>
      if isGap x then do
        let (spaces, c) := c.span isSpace
        if c.isAtEnd then throw .malformed
        if c.nextIs isBreak then
          let (first, c) := c.lineBreak
          let (others, c) ← quotedBreaks c (c.rest.length + 1)
          let (more, c) ← quotedFrom double c left
          return (foldBreaks first others ++ more, c)
        else
          let (more, c) ← quotedFrom double c left
          return (spaces ++ more, c)
      else if x = '"' && double then .ok ([], c.step)
      else if x = '\'' && !double then
        if rest.head? = some '\'' then do
          let (more, c) ← quotedFrom double (c.advance 2) left
          return ('\'' :: more, c)
        else .ok ([], c.step)
      else if x = '\\' && double then do
        let (meant, c) ← escape c.step
        let (more, c) ← quotedFrom double c left
        return (meant ++ more, c)
      else do
        let (more, c) ← quotedFrom double c.step left
        return (x :: more, c)

/-- A quoted scalar; the cursor is at the opening quote. -/
def quotedScalar (double : Bool) (c : Cursor) : Except Fault (Text × Cursor) :=
  quotedFrom double c.step (c.rest.length + 1)

/-! ### Block scalars -/

/-- What becomes of the line ends at the end of a block. -/
inductive Chomping where
  /-- One is kept. -/
  | clip
  /-- None is kept. -/
  | strip
  /-- All are kept. -/
  | keep
  deriving DecidableEq, Repr

/-- A mark for the line ends at the end of a block. -/
def chomping? : Char → Option Chomping
  | '+' => some .keep
  | '-' => some .strip
  | _ => none

/-- A mark for the indentation of a block. -/
def indentation (c : Char) : Except Fault (Option Nat) :=
  if '1' ≤ c && c ≤ '9' then .ok (some (c.toNat - 48))
  else if c = '0' then .error .malformed
  else .ok none

/-- The marks of a block in either order. -/
def blockMarks (c : Cursor) : Except Fault (Chomping × Option Nat × Cursor) := do
  let digit (c : Cursor) : Except Fault (Option Nat × Cursor) := do
    match ← (c.next?.map indentation).getD (.ok none) with
    | some n => return (some n, c.step)
    | none => return (none, c)
  match c.next?.bind chomping? with
  | some ch =>
    let (n, c) ← digit c.step
    return (ch, n, c)
  | none =>
    let (n, c) ← digit c
    match n, c.next?.bind chomping? with
    | some n, some ch => return (ch, some n, c.step)
    | _, _ => return (.clip, n, c)

/-- Empty lines at the start of a block, and the greatest column of their spaces. -/
def blockStart (c : Cursor) (widest : Nat) : Nat → Text × Nat × Cursor
  | 0 => ([], widest, c)
  | left + 1 =>
    if c.at_ ' ' then blockStart c.step (max widest c.step.column) left
    else if c.nextIs isBreak then
      let (br, c) := c.lineBreak
      let (brs, widest, c) := blockStart c widest left
      (br ++ brs, widest, c)
    else ([], widest, c)

/-- Spaces up to a column. -/
def spacesTo (indent : Nat) (c : Cursor) : Cursor :=
  c.advance (min (indent - c.column) (c.rest.takeWhile (· = ' ')).length)

/-- Empty lines inside a block, and the spaces at the start of the next line up to its indentation. -/
def blockBreaks (indent : Nat) (c : Cursor) : Nat → Text × Cursor
  | 0 => ([], spacesTo indent c)
  | left + 1 =>
    let c := spacesTo indent c
    if c.nextIs isBreak then
      let (br, c) := c.lineBreak
      let (brs, c) := blockBreaks indent c left
      (br ++ brs, c)
    else ([], c)

/-- The lines of a block from here on: their text, the last line end and the empty lines after it. The
empty lines before come in as `breaks`. -/
def blockLines (folded : Bool) (indent : Nat) (breaks : Text) (c : Cursor) :
    Nat → Text × Text × Text × Cursor
  | 0 => ([], [], breaks, c)
  | left + 1 =>
    if c.column = indent && !c.isAtEnd then
      let (line, after) := c.span (!isBreak ·)
      let (br, after) := after.lineBreak
      let (next, after) := blockBreaks indent after after.rest.length
      if after.column = indent && !after.isAtEnd then
        let joined := folded && br = ['\n'] && !c.nextIs isSpace && !after.nextIs isSpace
        let sep := if joined then (if next.isEmpty then [' '] else []) else br
        let (more, last, tail, after) := blockLines folded indent next after left
        (breaks ++ line ++ sep ++ more, last, tail, after)
      else (breaks ++ line, br, next, after)
    else ([], [], breaks, c)

/-- A block scalar; the cursor is at its mark. `parent` is the indentation around it. -/
def blockScalar (folded : Bool) (parent : Int) (c : Cursor) : Except Fault (Text × Cursor) := do
  let (chomping, increment, c) ← blockMarks c.step
  if !(c.isAtLineEnd || c.at_ ' ') then throw .malformed
  let c ← c.endLine
  let least := (max (parent + 1) 1).toNat
  let (indent, breaks, c) :=
    match increment with
    | some n =>
      let indent := least + n - 1
      let (breaks, c) := blockBreaks indent c c.rest.length
      (indent, breaks, c)
    | none =>
      let (breaks, widest, c) := blockStart c 0 c.rest.length
      (max least widest, breaks, c)
  let (body, last, tail, c) := blockLines folded indent breaks c (c.rest.length + 1)
  let tail := match chomping with
    | .clip => last
    | .strip => []
    | .keep => last ++ tail
  return (body ++ tail, c)

end Copyedit.Yaml
