import Copyedit.Spelling.Trie
import Copyedit.Text.Quoted

/-!
# Word lists

A dictionary made from a list of words with tags. A word listed again adds its tags; the place of its
first listing orders words of equal distance. The words also stand in a trie for looking up what is
near.
-/

namespace Copyedit.Spelling

/-- A word with the tags it carries. -/
structure Entry where
  /-- The word. -/
  word : Text
  /-- Its tags, none twice. -/
  tags : List Text := []
  deriving DecidableEq, Repr

/-- Adds an entry: its tags go to the word's entry, if there is one. The empty word is left out. -/
def addEntry (entries : List Entry) (e : Entry) : List Entry :=
  if e.word.isEmpty then entries
  else match entries with
    | [] => [{ e with tags := e.tags.eraseDups }]
    | x :: rest =>
      if x.word = e.word then { x with tags := (x.tags ++ e.tags).eraseDups } :: rest
      else x :: addEntry rest e

/-- The entries that a list makes, one a word, in the order of first listing. -/
def mergeEntries (listed : List Entry) : List Entry := listed.foldl addEntry []

/-- A dictionary made from a list of words. -/
structure WordList where
  /-- The name in reports. -/
  name : String
  /-- Whether capitalized and all-capital forms of a listed word are accepted too. -/
  convertsCase : Bool
  /-- The entries, one a word, in the order of first listing. -/
  entries : List Entry
  /-- The words in a trie, numbered by their places. -/
  trie : Trie
  /-- The trie holds the words of the entries. -/
  trie_eq : trie = Trie.ofWords (entries.map (·.word))

namespace WordList

/-- The word list of listed entries. -/
def ofEntries (listed : List Entry) (convertsCase : Bool := true) (name : String := "word_list") :
    WordList where
  name
  convertsCase
  entries := mergeEntries listed
  trie := Trie.ofWords ((mergeEntries listed).map (·.word))
  trie_eq := rfl

/-- The words in the order of first listing. -/
def words (d : WordList) : List Text := d.entries.map (·.word)

/-- The number of words. -/
def size (d : WordList) : Nat := d.entries.length

/-- Whether a word is listed as it is written. -/
def contains (d : WordList) (word : Text) : Bool := (d.trie.find? word).isSome

/-- The tags of a word; none if it is not listed. -/
def tagsFor (d : WordList) (word : Text) : List Text :=
  ((d.entries.find? (·.word == word)).map (·.tags)).getD []

/-- The listed words within `bound` edits of a word: nearer ones first, then in the order of listing.
There are none within a negative bound. -/
def lookup (d : WordList) (word : Text) (bound : Int) : List Text :=
  if bound < 0 then [] else d.trie.lookup word bound.toNat

/-- The dictionary as reports name it. -/
def shown (d : WordList) : String :=
  "WordListDictionary(name=" ++ quoteString d.name ++ s!", words={d.size})"

end WordList

/-! ### Files -/

/-- The entry of a line: the word before the first tab, and the tags after it. -/
def entryOfLine (line : Text) : Entry :=
  match (line.splitAtChar '\t') with
  | [] => ⟨[], []⟩
  | word :: tags => ⟨word.trim, (tags.map Text.trim).filter (!·.isEmpty)⟩

/-- The entries of the lines of a file. A line that starts with a hash is a comment, and so is the rest
of a line after a hash. -/
def entriesOfLines (lines : List Text) : List Entry :=
  lines.filterMap fun line =>
    if line.head? = some '#' then none
    else
      let kept := (line.before '#').trim
      if kept.isEmpty then none else some (entryOfLine kept)

end Copyedit.Spelling
