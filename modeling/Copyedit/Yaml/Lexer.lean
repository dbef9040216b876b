import Copyedit.Decimal.Integer
import Copyedit.Text.Encoding
import Copyedit.Yaml.Token

/-!
# Tokens from text

The tokens of a text, from left to right, each read when it is asked for. Whether a scalar is the key of a
mapping shows only at the colon after it: the lexer remembers where a key may have started, at most one for
each depth of brackets, and puts the key token there later; until this is settled, it reads on. A key
stands on one line and is at most 1024 characters long. Blocks start and end with the columns of what is
written.
-/

namespace Copyedit.Yaml

/-- A place where a key may have started. -/
structure PendingKey where
  /-- The number of tokens before it. -/
  tokens : Nat
  /-- Whether nothing but a key may stand there. -/
  required : Bool
  /-- The characters before it. -/
  index : Nat
  /-- Its line. -/
  line : Nat
  /-- Its column. -/
  column : Nat

/-- The state of reading tokens. -/
structure Lexer where
  /-- What is left of the text. -/
  cursor : Cursor
  /-- The tokens that have been read and not taken, the last one first. -/
  tokens : List Token := []
  /-- The number of tokens that have been taken. -/
  taken : Nat := 0
  /-- Whether the end of the text has been read. -/
  isDone : Bool := false
  /-- The column of the block that is being read; -1 outside all blocks. -/
  indent : Int := -1
  /-- The columns of the blocks around it. -/
  outer : List Int := []
  /-- The depth of brackets. -/
  depth : Nat := 0
  /-- Whether a key may start here. -/
  allowsKey : Bool := true
  /-- Where keys may have started, by depth. -/
  pending : List (Nat × PendingKey) := []

namespace Lexer

/-- The greatest length of a key. -/
def keyLimit : Nat := 1024

/-- Whether brackets are open. -/
def inFlow (s : Lexer) : Bool := s.depth != 0

/-- Adds a token. -/
def push (s : Lexer) (t : Token) : Lexer := { s with tokens := t :: s.tokens }

/-- The number of tokens that have been read. -/
def count (s : Lexer) : Nat := s.taken + s.tokens.length

/-- Puts a token after the first `n` ones. -/
def insertAt (s : Lexer) (n : Nat) (t : Token) : Lexer :=
  let later := s.count - n
  { s with tokens := s.tokens.take later ++ t :: s.tokens.drop later }

/-- Goes to another position. -/
def goTo (s : Lexer) (c : Cursor) : Lexer := { s with cursor := c }

/-! ### Keys and blocks -/

/-- Forgets the key that may have started at the present depth. -/
def dropKey (s : Lexer) : Except Fault Lexer :=
  if s.pending.any fun k => k.1 = s.depth && k.2.required then .error .malformed
  else .ok { s with pending := s.pending.filter (·.1 ≠ s.depth) }

/-- Forgets the keys that have become too long or whose line has ended. -/
def dropStaleKeys (s : Lexer) : Except Fault Lexer :=
  let isStale (k : PendingKey) :=
    k.line ≠ s.cursor.line || decide (s.cursor.index - k.index > keyLimit)
  if s.pending.any fun k => isStale k.2 && k.2.required then .error .malformed
  else .ok { s with pending := s.pending.filter fun k => !isStale k.2 }

/-- Remembers that a key may start here. -/
def saveKey (s : Lexer) : Except Fault Lexer :=
  if s.allowsKey then do
    let s ← s.dropKey
    let key : PendingKey := {
      tokens := s.count, required := !s.inFlow && s.indent == s.cursor.column
      index := s.cursor.index, line := s.cursor.line, column := s.cursor.column }
    return { s with pending := (s.depth, key) :: s.pending }
  else .ok s

/-- Ends the blocks that are further to the right than a column. -/
def closeBlocks (s : Lexer) (column : Int) : List Int → Lexer
  | [] => s
  | outer :: rest =>
    if column < s.indent then
      closeBlocks { s with tokens := .blockEnd :: s.tokens, indent := outer, outer := rest } column rest
    else s

/-- Ends the blocks that are further to the right than a column, outside of brackets. -/
def unwind (s : Lexer) (column : Int) : Lexer :=
  if s.inFlow then s else s.closeBlocks column s.outer

/-- Starts a block at a column that is further to the right, and tells whether it did. -/
def openBlock (s : Lexer) (column : Nat) : Bool × Lexer :=
  if s.indent < column then (true, { s with indent := column, outer := s.indent :: s.outer })
  else (false, s)

/-- Reads a mark of one character. -/
def mark (s : Lexer) (t : Token) : Lexer := (s.push t).goTo s.cursor.step

/-! ### Marks -/

/-- An opening bracket. -/
def openFlow (s : Lexer) (t : Token) : Except Fault Lexer := do
  let s ← s.saveKey
  return { s.mark t with depth := s.depth + 1, allowsKey := true }

/-- A closing bracket. -/
def closeFlow (s : Lexer) (t : Token) : Except Fault Lexer := do
  let s ← s.dropKey
  return { s.mark t with depth := s.depth - 1, allowsKey := false }

/-- A comma between brackets. -/
def comma (s : Lexer) : Except Fault Lexer := do
  return (← { s with allowsKey := true }.dropKey).mark .flowEntry

/-- Starts a block of a kind here if a key may start here. -/
def startBlock (s : Lexer) (t : Token) : Except Fault Lexer :=
  if s.inFlow then .ok s
  else if !s.allowsKey then .error .malformed
  else
    let (opened, s) := s.openBlock s.cursor.column
    .ok (if opened then s.push t else s)

/-- The mark of an item. -/
def item (s : Lexer) : Except Fault Lexer := do
  let s ← s.startBlock .blockSequenceStart
  return (← { s with allowsKey := true }.dropKey).mark .blockEntry

/-- The mark of a key. -/
def keyMark (s : Lexer) : Except Fault Lexer := do
  let s ← s.startBlock .blockMappingStart
  return (← { s with allowsKey := !s.inFlow }.dropKey).mark .key

/-- The mark of a value: what may have been a key is one. -/
def valueMark (s : Lexer) : Except Fault Lexer := do
  match s.pending.lookup s.depth with
  | some key =>
    let s := { s with pending := s.pending.filter (·.1 ≠ s.depth) }
    let s := s.insertAt key.tokens .key
    let (opened, s) := if s.inFlow then (false, s) else s.openBlock key.column
    let s := if opened then s.insertAt key.tokens .blockMappingStart else s
    return { s with allowsKey := false }.mark .value
  | none =>
    let s ← s.startBlock .blockMappingStart
    return (← { s with allowsKey := !s.inFlow }.dropKey).mark .value

/-! ### Names, tags and directives -/

/-- A name after its mark. -/
def name (c : Cursor) : Except Fault (Text × Cursor) :=
  let (n, c) := c.step.span isNameChar
  if n.isEmpty then .error .malformed
  else if c.isGapAt 0 || c.nextIs fun x => "?:,]\x7d%@`".toList.contains x then .ok (n, c)
  else .error .malformed

/-- A node that is named, or the name of one. -/
def named (s : Lexer) (make : Text → Token) : Except Fault Lexer := do
  let s ← s.saveKey
  let (n, c) ← name s.cursor
  return ({ s with allowsKey := false }.push (make n)).goTo c

/-- The text of a tag, which is not empty. -/
def tagUri (c : Cursor) : Except Fault (Text × Cursor) := do
  let (t, after) ← tagText Encoding.decode8? c (c.rest.length + 1)
  if after.index = c.index then throw .malformed
  return (t, after)

/-- The handle of a tag. -/
def tagHandle (c : Cursor) : Except Fault (Text × Cursor) :=
  if !c.at_ '!' then .error .malformed
  else
    let (n, after) := c.step.span isNameChar
    if n.isEmpty && after.at_ ' ' then .ok (['!'], after)
    else if after.at_ '!' then .ok ('!' :: n ++ ['!'], after.step)
    else .error .malformed

/-- Whether a blank or a line end comes next, or the text ends. -/
def isAtBlank (c : Cursor) : Bool := c.isAtLineEnd || c.at_ ' '

/-- A tag. -/
def tagMark (s : Lexer) : Except Fault Lexer := do
  let s ← s.saveKey
  let c := s.cursor
  let (handle, suffix, c) ←
    if c.rest[1]? = some '<' then do
      let (t, c) ← tagUri (c.advance 2)
      if !c.at_ '>' then throw .malformed
      pure (none, t, c.step)
    else if c.isGapAt 1 then pure (none, ['!'], c.step)
    else if (c.step.span fun x => !(isBreak x || x = ' ')).1.contains '!' then do
      let (h, c) ← tagHandle c
      let (t, c) ← tagUri c
      pure (some h, t, c)
    else do
      let (t, c) ← tagUri c.step
      pure (some ['!'], t, c)
  if !isAtBlank c then throw .malformed
  return ({ s with allowsKey := false }.push (.tag handle suffix)).goTo c

/-- A number in a directive. -/
def versionNumber (c : Cursor) : Except Fault (Int × Cursor) :=
  let (digits, c) := c.span fun x => '0' ≤ x && x ≤ '9'
  if digits.isEmpty then .error .malformed
  else match Decimal.integer? 10 digits with
    | some n => .ok (n, c)
    | none => .error (.failed (.value .tooManyDigits))

/-- What a directive says, after its name. -/
def directiveOf (name : Text) (c : Cursor) : Except Fault (Directive × Cursor) := do
  if name = "YAML".toList then
    let (major, c) ← versionNumber c.skipSpaces
    if !c.at_ '.' then throw .malformed
    let (_, c) ← versionNumber c.step
    if !isAtBlank c then throw .malformed
    return (.version major, c)
  else if name = "TAG".toList then
    let (handle, c) ← tagHandle c.skipSpaces
    if !c.at_ ' ' then throw .malformed
    let (start, c) ← tagUri c.skipSpaces
    if !isAtBlank c then throw .malformed
    return (.handle handle start, c)
  else return (.other, c.skip (!isBreak ·))

/-- A directive. -/
def directive (s : Lexer) : Except Fault Lexer := do
  let s ← (s.unwind (-1)).dropKey
  let (name, c) := s.cursor.step.span isNameChar
  if name.isEmpty || !isAtBlank c then throw .malformed
  let (d, c) ← directiveOf name c
  return ({ s with allowsKey := false }.push (.directive d)).goTo (← c.endLine)

/-- A line that separates documents. -/
def separator (s : Lexer) (t : Token) : Except Fault Lexer := do
  let s ← (s.unwind (-1)).dropKey
  return ({ s with allowsKey := false }.push t).goTo (s.cursor.advance 3)

/-! ### Scalars -/

/-- A block scalar. -/
def block (s : Lexer) (folded : Bool) : Except Fault Lexer := do
  let s ← { s with allowsKey := true }.dropKey
  let (t, c) ← blockScalar folded s.indent s.cursor
  return (s.push (.scalar t false)).goTo c

/-- A quoted scalar. -/
def quoted (s : Lexer) (double : Bool) : Except Fault Lexer := do
  let s ← s.saveKey
  let (t, c) ← quotedScalar double s.cursor
  return ({ s with allowsKey := false }.push (.scalar t false)).goTo c

/-- A plain scalar. -/
def plain (s : Lexer) : Except Fault Lexer := do
  let s ← s.saveKey
  let (t, broken, c) := plainScalar s.inFlow (s.indent + 1) s.cursor
  return ({ s with allowsKey := broken }.push (.scalar t true)).goTo c

/-- The characters that a plain scalar never starts with. -/
def indicators : List Char := "-?:,[]\x7b\x7d#&*!|>'\"%@`".toList

/-- Whether a plain scalar starts here. -/
def startsPlain (s : Lexer) (x : Char) : Bool :=
  if isGap x || indicators.contains x then
    !s.cursor.isGapAt 1 && (x = '-' || (!s.inFlow && (x = '?' || x = ':')))
  else true

/-! ### All tokens -/

/-- Goes past spaces, comments and line ends; a key may start on a new line. -/
def skipGaps (s : Lexer) : Nat → Lexer
  | 0 => s
  | left + 1 =>
    let c := s.cursor.skipSpaces.skipComment
    if c.nextIs isBreak then
      skipGaps { s with cursor := c.lineBreak.2, allowsKey := s.allowsKey || !s.inFlow } left
    else s.goTo c

/-- The end of the text. -/
def atEnd (s : Lexer) : Except Fault Lexer := do
  return { (← (s.unwind (-1)).dropKey).push .finish with isDone := true }

/-- Reads the next token, the cursor being at its first character. -/
def token (s : Lexer) (x : Char) : Except Fault Lexer :=
  let c := s.cursor
  let alone := s.inFlow || c.isGapAt 1
  if x = '%' && c.column = 0 then s.directive
  else if x = '-' && c.column = 0 && c.isAtSeparator then s.separator .documentStart
  else if x = '.' && c.column = 0 && c.isAtSeparator then s.separator .documentEnd
  else if x = '[' then s.openFlow .flowSequenceStart
  else if x = '\x7b' then s.openFlow .flowMappingStart
  else if x = ']' then s.closeFlow .flowSequenceEnd
  else if x = '\x7d' then s.closeFlow .flowMappingEnd
  else if x = ',' then s.comma
  else if x = '-' && c.isGapAt 1 then s.item
  else if x = '?' && alone then s.keyMark
  else if x = ':' && alone then s.valueMark
  else if x = '*' then s.named .alias_
  else if x = '&' then s.named .anchor
  else if x = '!' then s.tagMark
  else if x = '|' && !s.inFlow then s.block false
  else if x = '>' && !s.inFlow then s.block true
  else if x = '\'' then s.quoted false
  else if x = '"' then s.quoted true
  else if s.startsPlain x then s.plain
  else .error .malformed

/-- Goes past gaps and reads the next token. -/
def step (s : Lexer) : Except Fault Lexer := do
  let s ← (s.skipGaps (s.cursor.rest.length + 1)).dropStaleKeys
  let s := s.unwind s.cursor.column
  match s.cursor.next? with
  | some x => s.token x
  | none => s.atEnd

/-- Whether the first token that has not been taken may still turn out to start a key. -/
def mayStartKey (s : Lexer) : Bool := s.pending.any (·.2.tokens = s.taken)

/-- Reads tokens until it is settled what comes first; `left` bounds how many are read. -/
def settle (s : Lexer) : Nat → Except Fault Lexer
  | 0 => .ok s
  | left + 1 =>
    if s.isDone then .ok s
    else if s.tokens.isEmpty then do (← s.step).settle left
    else do
      let s ← s.dropStaleKeys
      if s.mayStartKey then (← s.step).settle left else return s

/-- The first token that has not been taken, and the state in which it is settled. -/
def peek (s : Lexer) : Except Fault (Token × Lexer) := do
  let s ← s.settle (s.cursor.rest.length + 2)
  match s.tokens.getLast? with
  | some t => return (t, s)
  | none => throw .malformed

/-- Takes the first token. -/
def take (s : Lexer) : Lexer := { s with tokens := s.tokens.dropLast, taken := s.taken + 1 }

/-- A text before its first token. -/
def ofText (t : Text) : Except Fault Lexer :=
  if t.all isAllowed then
    .ok { cursor := { rest := if t.head? = some byteOrderMark then t.tail else t } }
  else .error .malformed

end Lexer

end Copyedit.Yaml
