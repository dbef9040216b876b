import Copyedit.Error
import Copyedit.Text.Encoding

/-!
# Files of text

What is read from a file: a text whose lines all end in newlines. A file that is not there cannot be
read, and neither can one with bytes that its encoding does not allow.
-/

namespace Copyedit

/-- A file: its name and, if it is there, its bytes. -/
structure TextFile where
  /-- The name. -/
  name : String
  /-- The bytes; none if there is no such file. -/
  bytes : Option Bytes

/-- The text of a file of a kind. -/
def TextFile.read (f : TextFile) (kind : FileKind) (e : Encoding := .utf8) : Except Error Text :=
  match f.bytes.map e.decode with
  | some (.ok t) => .ok t.withNewlines
  | some (.error .unmarked) => .error (.value .noByteOrder)
  | some (.error .malformed) | none => .error (.shortage (.unreadable kind f.name))

end Copyedit
