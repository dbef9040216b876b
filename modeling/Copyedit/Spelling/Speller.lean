import Copyedit.Casing
import Copyedit.Spelling.Candidate
import Copyedit.Spelling.Dictionary

/-!
# Spellers

A speller checks words against one dictionary and suggests corrections within a number of edits. A
dictionary that converts case accepts a word in capitals, or a capitalized one, for a word that it lists
in lower case; suggestions for a capitalized word are then capitalized. A misspelled word may also be
two words run together. `MultiSpeller` asks several dictionaries: one that accepts a word is enough.

Suggestions are ordered by distance and then as the dictionary orders them; each comes once, and the
misspelled word itself is never one.
-/

namespace Copyedit.Spelling

/-- A speller over one dictionary. -/
structure Speller where
  /-- The dictionary. -/
  dictionary : Dictionary
  /-- The greatest number of edits. -/
  maxDistance : Int
  /-- There is at least one edit. -/
  maxDistance_pos : 0 < maxDistance
  /-- The locale that decides how case is converted. -/
  locale : Locale
  /-- Whether words that are run together are split. -/
  splitsRunOns : Bool

namespace Speller

/-- A speller; the number of edits must be positive. -/
def make (dictionary : Dictionary) (maxDistance : Int := 1) (locale : Locale := .english)
    (splitsRunOns : Bool := true) : Except Error Speller :=
  if h : 0 < maxDistance then .ok ⟨dictionary, maxDistance, h, locale, splitsRunOns⟩
  else .error (.defect (.argument "max_distance" "> 0" maxDistance))

/-- Whether the dictionary converts case. -/
def convertsCase (s : Speller) : Bool := s.dictionary.convertsCase

/-- The forms of a word that a dictionary that converts case may list. -/
def caseVariants (locale : Locale) (word : Text) : List Text :=
  let variants :=
    if word.isAllUpper then [locale.lower word, locale.capitalize (locale.lower word)]
    else if word.startsUpper then [locale.uncapitalize word]
    else []
  variants.filter (· ≠ word)

/-- Whether the dictionary accepts a word. -/
def isKnown (s : Speller) (word : Text) : Bool :=
  s.dictionary.contains word ||
    (s.convertsCase && (caseVariants s.locale word).any s.dictionary.contains)

/-- Whether a word is misspelled; the empty one is not. -/
def isMisspelled (s : Speller) (word : Text) : Bool := !word.isEmpty && !s.isKnown word

/-- The least length of the parts of a split. -/
def leastPart : Nat := 2

/-- The distance that a split counts for. -/
def splitDistance : Nat := 1

/-- The splits of a word into two known words. -/
def runOnSplits (s : Speller) (word : Text) : List Text :=
  (List.range' leastPart (word.length + 1 - 2 * leastPart)).filterMap fun i =>
    if s.isKnown (word.take i) && s.isKnown (word.drop i) then
      some (word.take i ++ ' ' :: word.drop i)
    else none

/-- The forms of a word that are looked up. -/
def queries (s : Speller) (word : Text) : List Text :=
  word :: (if s.convertsCase then caseVariants s.locale word else [])

/-- What looking up and splitting a word yields, with distances. -/
def found (s : Speller) (word : Text) : List (Nat × Text) :=
  (s.queries word).flatMap (fun q =>
    (s.dictionary.lookup q s.maxDistance).map fun w => (Spelling.distance q w, w)) ++
  if s.splitsRunOns then (s.runOnSplits word).map fun w => (splitDistance, w) else []

/-- A suggestion in the casing of the word: capitalized if the word is, unless its cases mix. -/
def recase (s : Speller) (word suggestion : Text) : Text :=
  if s.convertsCase && word.startsUpper && !suggestion.isMixedCase then
    s.locale.capitalize suggestion
  else suggestion

/-- The candidates for a word; none for the empty one or one that is accepted. -/
def candidates (S : Type) (s : Speller) (word : Text) : List (Candidate S) :=
  if s.isMisspelled word then
    let nearestFirst := (s.found word).mergeSort (·.1 ≤ ·.1)
    distinctFrom (·.correction) [word]
      (nearestFirst.map fun e => ⟨s.recase word e.2, e.1, none⟩)
  else []

/-- The corrections of a word. -/
def suggestions (s : Speller) (word : Text) : List Text :=
  (s.candidates Unit word).map (·.correction)

/-- The speller as reports name it. -/
def shown (s : Speller) : String :=
  "Speller(" ++ s.dictionary.shown ++ s!", max_distance={s.maxDistance})"

end Speller

/-- A speller over several dictionaries. -/
structure MultiSpeller where
  /-- The greatest number of edits. -/
  maxDistance : Int
  /-- A speller for each dictionary. -/
  spellers : List Speller

namespace MultiSpeller

/-- A speller over dictionaries, each taken once; the number of edits must be positive. -/
def make (dictionaries : List Dictionary) (maxDistance : Int := 1) (locale : Locale := .english)
    (splitsRunOns : Bool := true) : Except Error MultiSpeller :=
  if h : 0 < maxDistance then
    .ok ⟨maxDistance, (distinctBy (·.number) dictionaries).map fun d =>
      ⟨d, maxDistance, h, locale, splitsRunOns⟩⟩
  else .error (.defect (.argument "max_distance" "> 0" maxDistance))

/-- Whether some dictionary converts case. -/
def convertsCase (m : MultiSpeller) : Bool := m.spellers.any (·.convertsCase)

/-- Whether no dictionary accepts a word; the empty word is not misspelled. -/
def isMisspelled (m : MultiSpeller) (word : Text) : Bool :=
  !word.isEmpty && m.spellers.all (·.isMisspelled word)

/-- The candidates of all dictionaries; of equal corrections the first is kept. -/
def candidates (S : Type) (m : MultiSpeller) (word : Text) : List (Candidate S) :=
  if m.isMisspelled word then
    (distinctBy (·.correction) (m.spellers.flatMap fun s => s.candidates S word)).mergeSort
      fun a b => a.distance ≤ b.distance
  else []

/-- The corrections of a word. -/
def suggestions (m : MultiSpeller) (word : Text) : List Text :=
  (m.candidates Unit word).map (·.correction)

/-- The speller as reports name it. -/
def shown (m : MultiSpeller) : String :=
  s!"MultiSpeller({m.spellers.length} dictionaries, max_distance={m.maxDistance})"

end MultiSpeller

end Copyedit.Spelling
