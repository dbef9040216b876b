import Copyedit.Spelling.FrequencyList
import Copyedit.Spelling.WordList
import Copyedit.TextFile

/-!
# Dictionaries

A dictionary answers whether it lists a word as it is written, and which of its words lie within a
number of edits of one. It is a word list or a frequency list. Two dictionaries with the same content
are still two: each has a number of its own.
-/

namespace Copyedit.Spelling

/-- What a dictionary is made from. -/
inductive Listing where
  /-- A list of words. -/
  | words (d : WordList)
  /-- Counted words. -/
  | frequencies (d : FrequencyList)

/-- A dictionary. -/
structure Dictionary where
  /-- The number that tells it from other dictionaries. -/
  number : Nat
  /-- The words. -/
  listing : Listing

namespace Dictionary

/-- The name in reports. -/
def name (d : Dictionary) : String :=
  match d.listing with
  | .words w => w.name
  | .frequencies f => f.name

/-- Whether capitalized and all-capital forms of a listed word are accepted too. -/
def convertsCase (d : Dictionary) : Bool :=
  match d.listing with
  | .words w => w.convertsCase
  | .frequencies f => f.convertsCase

/-- Whether a word is listed as it is written. -/
def contains (d : Dictionary) (word : Text) : Bool :=
  match d.listing with
  | .words w => w.contains word
  | .frequencies f => f.contains word

/-- The listed words within `bound` edits of a word, nearer ones first. -/
def lookup (d : Dictionary) (word : Text) (bound : Int) : List Text :=
  match d.listing with
  | .words w => w.lookup word bound
  | .frequencies f => f.lookup word bound

/-- The dictionary as reports name it. -/
def shown (d : Dictionary) : String :=
  match d.listing with
  | .words w => w.shown
  | .frequencies f => "FrequencyList(name=" ++ quoteString f.name ++ ")"

end Dictionary

/-- The word list of a file, named after it. -/
def WordList.load (f : TextFile) (convertsCase : Bool := true) (encoding : Encoding := .utf8) :
    Except Error WordList := do
  return ofEntries (entriesOfLines (← f.read .wordList encoding).lines) convertsCase f.name

/-! ### Shipped lists -/

/-- Lists of counted words by the code of their language in lower case. -/
abbrev Shipped := List (Text × List (Text × Int))

/-- The frequency list that is shipped for a language, if there is one. -/
def FrequencyList.forLanguage (shipped : Shipped) (language : Text) : Except Error FrequencyList :=
  match (tableOf shipped).lookup language.lower with
  | some counted =>
    .ok (ofWords [] counted true ("pyspellchecker:" ++ String.ofList language))
  | none => .error (.shortage (.noFrequencies (String.ofList language)))

end Copyedit.Spelling
