import Copyedit.Sequence
import Copyedit.Spelling.WordList
import Copyedit.Token

/-!
# Tagging

A lexicon lists forms with their readings. Tagging by it adds to each token the readings of its form, or
else those of the form in lower case. Tokens that it does not list keep their readings.
-/

namespace Copyedit

/-- A lexicon of forms with their readings. -/
structure Lexicon where
  /-- The forms in order, each with its readings. -/
  forms : List (Text × List Reading)

namespace Lexicon

/-- A lexicon of entries; the last one of a form counts. -/
def ofEntries (entries : List (Text × List Reading)) : Lexicon := ⟨tableOf entries⟩

/-- The lexicon that takes the tags of a word list, in order, for readings of a word as its own base form.
Words without tags are not listed. -/
def ofWordList (d : Spelling.WordList) : Lexicon :=
  ofEntries ((d.entries.filter (!·.tags.isEmpty)).map fun e =>
    (e.word, (e.tags.mergeSort Text.le).map fun tag => ⟨some e.word, some tag⟩))

/-- The number of forms. -/
def size (l : Lexicon) : Nat := l.forms.length

/-- The readings of a form: its own, or else those of the form in lower case. -/
def readingsFor (l : Lexicon) (form : Text) : List Reading :=
  match l.forms.lookup form with
  | some (r :: rs) => r :: rs
  | _ => (l.forms.lookup form.lower).getD []

/-- Adds the readings of each token. -/
def tag (l : Lexicon) (tokens : List Token) : List Token :=
  tokens.map fun k => k.withReadings (k.readings ++ (k.text.map l.readingsFor).getD [])

end Lexicon

end Copyedit
