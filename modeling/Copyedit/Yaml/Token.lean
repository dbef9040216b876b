import Copyedit.Yaml.Scalar

/-!
# Tokens of a document

A document is a sequence of tokens: brackets and marks, scalars, and the names and tags of nodes. Where a
block begins or ends there is a token as well, although nothing is written for it.
-/

namespace Copyedit.Yaml

/-- A directive before a document. -/
inductive Directive where
  /-- The version of the format; its first number counts. -/
  | version (major : Int)
  /-- A handle that stands for the start of tags. -/
  | handle (name start : Text)
  /-- Any other directive. -/
  | other
  deriving DecidableEq, Repr

/-- A token. -/
inductive Token where
  /-- A directive. -/
  | directive (d : Directive)
  /-- The start of a document. -/
  | documentStart
  /-- The end of a document. -/
  | documentEnd
  /-- The start of a list in a block. -/
  | blockSequenceStart
  /-- The start of a mapping in a block. -/
  | blockMappingStart
  /-- The end of a block. -/
  | blockEnd
  /-- The start of a list in brackets. -/
  | flowSequenceStart
  /-- The end of a list in brackets. -/
  | flowSequenceEnd
  /-- The start of a mapping in braces. -/
  | flowMappingStart
  /-- The end of a mapping in braces. -/
  | flowMappingEnd
  /-- An item of a list in a block. -/
  | blockEntry
  /-- A comma. -/
  | flowEntry
  /-- A key follows. -/
  | key
  /-- A value follows. -/
  | value
  /-- A node that stands elsewhere, by its name. -/
  | alias_ (name : Text)
  /-- The name of the node that follows. -/
  | anchor (name : Text)
  /-- The tag of the node that follows; without a handle it is complete. -/
  | tag (handle : Option Text) (suffix : Text)
  /-- A scalar, and whether it is written plainly. -/
  | scalar (text : Text) (plain : Bool)
  /-- The end of the text. -/
  | finish

/-! ### Names and tags -/

/-- Whether a character may stand in a name. -/
def isNameChar (c : Char) : Bool :=
  ('0' ≤ c && c ≤ '9') || ('A' ≤ c && c ≤ 'Z') || ('a' ≤ c && c ≤ 'z') || c = '-' || c = '_'

/-- Whether a character may stand in a tag. -/
def isTagChar (c : Char) : Bool := isNameChar c || ";/?:@&=+$,.!~*'()[]%".toList.contains c

/-- The bytes that escapes in a tag stand for, and the cursor after them. -/
def tagBytes (c : Cursor) : Nat → Except Fault (List Nat × Cursor)
  | 0 => .ok ([], c)
  | left + 1 =>
    match c.rest with
    | '%' :: a :: b :: _ =>
      match hexNumber? [a, b] with
      | some n => do
        let (more, c) ← tagBytes (c.advance 3) left
        return (n :: more, c)
      | none => .error .malformed
    | '%' :: _ => .error .malformed
    | _ => .ok ([], c)

/-- The text of a tag, and the cursor after it. -/
def tagText (decode : List Nat → Option Text) (c : Cursor) : Nat → Except Fault (Text × Cursor)
  | 0 => .ok ([], c)
  | left + 1 =>
    match c.rest with
    | '%' :: _ => do
      let (bytes, c) ← tagBytes c (c.rest.length + 1)
      match decode bytes with
      | some t =>
        let (more, c) ← tagText decode c left
        return (t ++ more, c)
      | none => throw .malformed
    | x :: _ =>
      if isTagChar x then do
        let (more, c) ← tagText decode c.step left
        return (x :: more, c)
      else .ok ([], c)
    | [] => .ok ([], c)

end Copyedit.Yaml
