import Copyedit.Error
import Copyedit.Text.LetterCase

/-!
# Casing

Capitalization in a locale. A suggestion takes over the casing of the text that it replaces. Dutch
capitalizes the digraph ij as a whole, and the Turkic languages tell the dotted from the dotless i; the
classification of a text by its casing knows no locale. The empty text has no casing and is left as it
is.
-/

namespace Copyedit

/-! ### Classification -/

namespace Text

/-- Whether the first character is upper case. -/
def startsUpper : Text → Bool
  | [] => false
  | c :: _ => isUpper c

/-- Whether a character is a lower-case letter; other characters with case do not count. -/
def isLowerLetter (c : Char) : Bool := isLetter c && isLower c

/-- Whether a character is a letter that is not lower case. -/
def isOtherLetter (c : Char) : Bool := isLetter c && !isLower c

/-- Whether there is a character, and no letter is lower case. -/
def isAllUpper (t : Text) : Bool := !t.isEmpty && !t.any isLowerLetter

/-- Whether the text is capitalized and no letter after the first is anything but lower case. -/
def isCapitalized : Text → Bool
  | [] => false
  | c :: rest => isUpper c && !rest.any isOtherLetter

/-- Whether cases mix beyond plain capitalization. -/
def isMixedCase (t : Text) : Bool := t.any isOtherLetter && !t.isAllUpper && !t.isCapitalized

end Text

/-! ### Locales -/

/-- A locale, such as `nl_BE`. -/
structure Locale where
  /-- The name, which is not empty. -/
  name : String
  /-- A locale has a name. -/
  name_ne_empty : name ≠ ""

namespace Locale

/-- The locale with a name, if the name is not empty. -/
def ofName (name : String) : Except Error Locale :=
  if h : name = "" then .error (.defect .emptyLocale) else .ok ⟨name, h⟩

/-- English, for callers without a locale of their own. -/
def english : Locale := ⟨"en", by decide⟩

/-- Dutch, which capitalizes the digraph ij as a whole. -/
def dutch : Locale := ⟨"nl", by decide⟩

/-- Turkish, in which the dotted and the dotless i are two letters. -/
def turkish : Locale := ⟨"tr", by decide⟩

/-- The language of a locale: its name up to the first hyphen or underscore, in lower case. -/
def languageOf (name : Text) : Text := Text.lower (name.takeWhile fun c => c ≠ '-' && c ≠ '_')

/-- The language. -/
def language (l : Locale) : Text := languageOf l.name.toList

/-- Whether the digraph ij is capitalized as a whole. -/
def hasDigraph (l : Locale) : Bool := l.language == ['n', 'l']

/-- Whether the dotted and the dotless i are two letters. -/
def isTurkic (l : Locale) : Bool := l.language == ['t', 'r'] || l.language == ['a', 'z']

/-- The locale's converter as reports name it. -/
def converterShown (l : Locale) : String := "CaseConverter(" ++ quoteString l.name ++ ")"

/-! ### Conversion -/

/-- The text in upper case. -/
def upper (l : Locale) (t : Text) : Text :=
  (if l.isTurkic then t.replaceChar 'i' 'İ' else t).upper

/-- The text in lower case. -/
def lower (l : Locale) (t : Text) : Text :=
  (if l.isTurkic then (t.replaceChar 'I' 'ı').replaceChar 'İ' 'i' else t).lower

/-- The text with its first letter in upper case. -/
def capitalize (l : Locale) : Text → Text
  | [] => []
  | 'i' :: 'j' :: rest => if l.hasDigraph then 'I' :: 'J' :: rest else l.upper ['i'] ++ 'j' :: rest
  | c :: rest => l.upper [c] ++ rest

/-- The text with its first character in lower case. -/
def uncapitalize (l : Locale) : Text → Text
  | [] => []
  | c :: rest => l.lower [c] ++ rest

end Locale

/-- How the casing of a suggestion is made. -/
inductive Conversion where
  /-- The suggestion stays as it is. -/
  | keep
  /-- The casing of a sample is copied. -/
  | preserve
  /-- The first character in lower case. -/
  | startLower
  /-- The first letter in upper case. -/
  | startUpper
  /-- All in upper case. -/
  | allUpper
  /-- All in lower case. -/
  | allLower
  deriving DecidableEq, Repr

namespace Conversion

/-- The name of a conversion in rule files. -/
def name : Conversion → String
  | keep => "none"
  | preserve => "preserve"
  | startLower => "startlower"
  | startUpper => "startupper"
  | allUpper => "allupper"
  | allLower => "alllower"

/-- All conversions. -/
def all : List Conversion := [keep, preserve, startLower, startUpper, allUpper, allLower]

/-- The conversion with a name. -/
def ofName? (name : String) : Option Conversion := all.find? (·.name == name)

theorem ofName?_name (c : Conversion) : ofName? c.name = some c := by cases c <;> rfl

end Conversion

/-- Converts a text. The sample is what `preserve` copies the casing of. -/
def Locale.convert (l : Locale) (t : Text) (c : Conversion) (sample : Option Text) : Text :=
  match c with
  | .keep => t
  | .preserve =>
    match sample with
    | some s =>
      if s.startsUpper then (if s.isAllUpper then l.upper t else l.capitalize t) else t
    | none => t
  | .startLower => l.uncapitalize t
  | .startUpper => l.capitalize t
  | .allUpper => l.upper t
  | .allLower => l.lower t

end Copyedit
