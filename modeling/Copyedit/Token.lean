import Copyedit.Error
import Copyedit.Regex.Basic
import Copyedit.Text.LetterCase

/-!
# Tokens

A token is a word or a symbol of a text with its readings: what base form and what tag it may have.
Tokens may come from outside without a text of their own; what needs the text of such a token fails.
-/

namespace Copyedit

/-- One reading of a token. Base form and tag may be unknown. -/
structure Reading where
  /-- The base form. -/
  base : Option Text
  /-- The part-of-speech tag. -/
  tag : Option Text
  deriving DecidableEq, Repr

/-- A word or a symbol in a text. -/
structure Token where
  /-- The characters, if the token has any of its own. -/
  text : Option Text
  /-- The position of the first character. -/
  start : Int := 0
  /-- What the token may be; nothing if it is unknown. -/
  readings : List Reading := []
  /-- Whether a blank stands before the token. -/
  spaceBefore : Bool := false
  /-- Whether the token is the first of its sentence. -/
  opensSentence : Bool := false
  deriving DecidableEq, Repr

namespace Token

/-- A token with a single reading, or none if both base form and tag are unknown. -/
def ofReading (text : Option Text) (base tag : Option Text) (start : Int := 0)
    (spaceBefore opensSentence : Bool := false) : Token where
  text
  start
  readings := if base.isNone && tag.isNone then [] else [⟨base, tag⟩]
  spaceBefore
  opensSentence

/-- The text, where its characters are looked at one by one. -/
def characters (t : Token) : Except Error Text :=
  match t.text with
  | some text => .ok text
  | none => .error (.kind (.notIterable "NoneType"))

/-- The text in lower case. -/
def lowered (t : Token) : Except Error Text :=
  match t.text with
  | some text => .ok text.lower
  | none => .error (.lacks "NoneType" "lower")

/-- The position after the last character. -/
def stop (t : Token) : Except Error Int :=
  match t.text with
  | some text => .ok (t.start + text.length)
  | none => .error (.kind (.noLength "NoneType"))

theorem stop_of_text {t : Token} {w : Text} (h : t.text = some w) : t.stop = .ok (t.start + w.length) := by
  rw [stop, h]

/-- Whether some reading has a tag. -/
def isTagged (t : Token) : Bool := t.readings.any (·.tag.isSome)

/-- The known base forms, in reading order. -/
def bases (t : Token) : List Text := t.readings.filterMap (·.base)

/-- The known tags, in reading order. -/
def tags (t : Token) : List Text := t.readings.filterMap (·.tag)

/-- The token with one more reading. -/
def addReading (t : Token) (r : Reading) : Token := { t with readings := t.readings ++ [r] }

/-- The token with other readings. -/
def withReadings (t : Token) (rs : List Reading) : Token := { t with readings := rs }

/-- Whether the tag of some reading matches an expression as a whole. -/
def hasTag (t : Token) (r : Regex) : Bool := t.tags.any r.fullMatch

/-- Whether some reading has this base form. -/
def hasBase (t : Token) (base : Text) : Bool := t.bases.contains base

end Token

end Copyedit
