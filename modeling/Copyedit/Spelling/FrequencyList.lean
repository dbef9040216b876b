import Copyedit.Decimal.Read
import Copyedit.Sequence
import Copyedit.Spelling.Distance
import Copyedit.Text.LetterCase

/-!
# Frequency lists

A dictionary made from counted words, all in lower case, each listed once. What is near a word is found by
editing the word itself, once or twice; which texts that makes is up to an editor. What is found is measured
again against the word as it is written.

The editor of a list edits the word in lower case with the letters of the list. A word that looks like a
number, is a single punctuation mark or is much longer than all listed words it does not edit.
-/

namespace Copyedit.Spelling

/-- A dictionary made from counted words. -/
structure FrequencyList where
  /-- The name in reports. -/
  name : String
  /-- Whether capitalized and all-capital forms of a listed word are accepted too. -/
  convertsCase : Bool
  /-- The words in lower case with their counts. -/
  counts : List (Text × Int)
  /-- Each word is listed once. -/
  nodup : (counts.map (·.1)).Nodup
  deriving Repr

namespace FrequencyList

/-- Adds to the count of a word in lower case. -/
def count (counts : List (Text × Int)) (word : Text) (n : Int) : List (Text × Int) :=
  putKey counts word.lower ((counts.lookup word.lower).getD 0 + n)

/-- Adds to the counts of several words, one after the other. -/
def countAll (counts counted : List (Text × Int)) : List (Text × Int) :=
  counted.foldl (fun cs e => count cs e.1 e.2) counts

theorem nodup_countAll (counts counted : List (Text × Int)) (h : (counts.map (·.1)).Nodup) :
    ((countAll counts counted).map (·.1)).Nodup := by
  induction counted generalizing counts with
  | nil => exact h
  | cons e counted ih => exact ih _ (nodup_keys_putKey h e.1.lower _)

/-- The list of words, each counted once an occurrence, and of words with counts of their own. -/
def ofWords (words : List Text) (counted : List (Text × Int)) (convertsCase : Bool := true)
    (name : String := "pyspellchecker") : FrequencyList where
  name
  convertsCase
  counts := countAll (countAll [] (words.map (·, 1))) (tableOf counted)
  nodup := nodup_countAll _ _ (nodup_countAll [] _ List.nodup_nil)

/-- Whether a word is listed as it is written. -/
def contains (d : FrequencyList) (word : Text) : Bool := (d.counts.lookup word).isSome

/-- The count of a word; 0 if it is not listed. -/
def frequency (d : FrequencyList) (word : Text) : Int := (d.counts.lookup word).getD 0

/-- The characters of the listed words. -/
def letters (d : FrequencyList) : List Char := (d.counts.flatMap (·.1)).eraseDups

/-- The length of the longest word. -/
def longest (d : FrequencyList) : Nat := (d.counts.map (·.1.length)).max?.getD 0

end FrequencyList

/-! ### Words that are not edited -/

/-- A punctuation mark of ASCII. -/
def isAsciiPunctuation (c : Char) : Bool :=
  33 ≤ c.toNat && c.toNat < 127 && !isAsciiLetter c && !isAsciiDigit c

/-- The words that name a number and are edited all the same. -/
def numberNames : List Text := ["nan".toList, "inf".toList, "infinity".toList]

/-- Whether a word in lower case is edited to find what is near it. -/
def FrequencyList.edits (d : FrequencyList) (t : Text) : Bool :=
  !(t.length == 1 && t.all isAsciiPunctuation) && t.length ≤ d.longest + 3 &&
    (numberNames.contains t.lower || (Decimal.read? t).isNone)

/-! ### Single edits -/

/-- All texts one edit away: a character deleted, two neighbours swapped, a character replaced by a
letter, or a letter inserted. -/
def singleEdits (letters : List Char) : Text → List Text
  | [] => letters.map fun c => [c]
  | a :: t =>
    t :: letters.map (· :: t) ++ letters.map (· :: a :: t) ++
      (match t with
        | b :: rest => [b :: a :: rest]
        | [] => []) ++
      (singleEdits letters t).map (a :: ·)

/-- Whether `w` is one edit away from a text. -/
def isSingleEdit (letters : List Char) : Text → Text → Bool
  | [], w => match w with
    | [c] => letters.contains c
    | _ => false
  | a :: t, w =>
    w == t ||
      match w with
      | [] => false
      | c :: r =>
        (letters.contains c && (r == t || r == a :: t)) ||
          (match t with
            | b :: rest => w == b :: a :: rest
            | [] => false) ||
          (c == a && isSingleEdit letters t r)

theorem isSingleEdit_iff (letters : List Char) (t w : Text) :
    isSingleEdit letters t w = true ↔ w ∈ singleEdits letters t := by
  induction t generalizing w with
  | nil =>
    match w with
    | [] => simp [isSingleEdit, singleEdits]
    | [c] => simp [isSingleEdit, singleEdits]
    | _ :: _ :: _ => simp [isSingleEdit, singleEdits]
  | cons a t ih =>
    unfold singleEdits isSingleEdit
    cases w with
    | nil => cases t <;> simp
    | cons c r =>
      have rest := ih r
      clear ih
      cases t <;> simp only [Bool.or_eq_true, Bool.and_eq_true, beq_iff_eq,
        List.contains_iff_mem, List.mem_append, List.mem_cons, List.mem_map, List.cons.injEq,
        Bool.false_eq_true, List.not_mem_nil, rest] <;> constructor <;> intro h <;>
        rcases h with h | h <;> grind

/-! ### Editors -/

/-- What makes texts from a word by editing it. -/
structure Editor where
  /-- Whether a text is among those made from a word by one edit. -/
  once : Text → Text → Bool
  /-- Whether a text is among those made from a word by two edits. -/
  twice : Text → Text → Bool

/-- Whether editing a word up to `bound` times, at most twice, can yield `w`. -/
def Editor.reaches (e : Editor) (word : Text) (bound : Nat) (w : Text) : Bool :=
  w == word || (1 ≤ bound && e.once word w) || (2 ≤ bound && e.twice word w)

namespace FrequencyList

/-- The texts one edit away from a word in lower case, or the word alone if it is not edited. -/
def near (d : FrequencyList) (t : Text) : List Text :=
  if d.edits t then singleEdits d.letters t else [t]

/-- Whether `w` is among the texts one edit away from a word in lower case. -/
def isNear (d : FrequencyList) (letters : List Char) (t w : Text) : Bool :=
  if d.edits t then isSingleEdit letters t w else w == t

/-- The editor of a list. -/
def editor (d : FrequencyList) : Editor :=
  let letters := d.letters
  { once := fun word w => d.isNear letters word.lower w
    twice := fun word w => (d.near word.lower).any fun v => d.isNear letters v.lower w }

/-! ### Looking up -/

/-- Edits are tried at most twice. -/
def maxBound : Int := 2

/-- A listed word that was found. -/
structure Found where
  /-- Its distance to the word looked up. -/
  distance : Nat
  /-- Its count. -/
  count : Int
  /-- The word. -/
  word : Text

/-- Nearer words first, then more frequent ones, then in alphabetical order. -/
def Found.le (a b : Found) : Bool :=
  a.distance < b.distance || (a.distance == b.distance &&
    (b.count < a.count || (a.count == b.count && a.word.le b.word)))

/-- A listed word with its count as found, if it is within the bound and the editor makes it. -/
def found? (e : Editor) (word : Text) (bound : Int) (entry : Text × Int) : Option Found :=
  match boundedDistance word entry.1 bound with
  | some n => if e.reaches word bound.toNat entry.1 then some ⟨n, entry.2, entry.1⟩ else none
  | none => none

/-- The listed words that an editor finds near a word, in order. -/
def lookupBy (d : FrequencyList) (e : Editor) (word : Text) (bound : Int) : List Text :=
  if bound < 0 || word.isEmpty then []
  else
    let found := d.counts.filterMap (found? e word (min bound maxBound))
    (found.mergeSort Found.le).map (·.word)

/-- The listed words near a word, in order. -/
def lookup (d : FrequencyList) (word : Text) (bound : Int) : List Text :=
  d.lookupBy d.editor word bound

end FrequencyList

end Copyedit.Spelling
