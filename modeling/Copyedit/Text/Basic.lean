import Copyedit.Text.Blank

/-!
# Texts

A text is the list of its characters, so that lengths and positions count characters. This module
holds the operations that the rest of the library shares: trimming blanks, splitting at a character,
splitting into words, cutting out a range, the order by the codes of characters. Main statements: trimming only removes blanks at the ends,
and joining what a split yields gives the text back.
-/

namespace Copyedit

/-- A text: its characters in order. -/
abbrev Text := List Char

namespace Text

/-- The text without the blanks at its start. -/
def trimStart (t : Text) : Text := t.dropWhile isBlank

/-- The text without the characters at its end that satisfy `p`. -/
def dropEndWhile (p : Char → Bool) (t : Text) : Text := (t.reverse.dropWhile p).reverse

/-- The text without the blanks at its end. -/
def trimEnd (t : Text) : Text := t.dropEndWhile isBlank

/-- The text without the blanks at its ends. -/
def trim (t : Text) : Text := t.trimStart.trimEnd

/-- Whether the text holds nothing but blanks. -/
def isAllBlank (t : Text) : Bool := t.all isBlank

/-- The parts between the occurrences of a character; always at least one part. -/
def splitAtChar (sep : Char) : Text → List Text
  | [] => [[]]
  | c :: rest =>
    if c = sep then [] :: splitAtChar sep rest
    else match splitAtChar sep rest with
      | [] => [[c]]
      | part :: parts => (c :: part) :: parts

/-- The characters before the first occurrence of a character. -/
def before (sep : Char) (t : Text) : Text := t.takeWhile (· ≠ sep)

/-- Collects words: `word` is the one under way, in reverse. -/
def wordsFrom (word : Text) : Text → List Text
  | [] => if word.isEmpty then [] else [word.reverse]
  | c :: rest =>
    if isBlank c then
      if word.isEmpty then wordsFrom [] rest else word.reverse :: wordsFrom [] rest
    else wordsFrom (c :: word) rest

/-- The stretches between blanks. -/
def words (t : Text) : List Text := wordsFrom [] t

/-- Each occurrence of one character replaced by another. -/
def replaceChar (old new : Char) (t : Text) : Text := t.map fun c => if c = old then new else c

/-- The characters from position `start` up to position `stop`. -/
def slice (t : Text) (start stop : Nat) : Text := (t.drop start).take (stop - start)

/-- Whether a text comes before another or is the same, by the codes of the characters. -/
def le : Text → Text → Bool
  | [], _ => true
  | _ :: _, [] => false
  | c :: a, d :: b => c.toNat < d.toNat || (c.toNat == d.toNat && le a b)

/-- What stands between two parts of a text is cut out by its position and its length. -/
theorem slice_append (before t after : Text) :
    slice (before ++ (t ++ after)) before.length (before.length + t.length) = t := by
  rw [slice, List.drop_left, Nat.add_sub_cancel_left, List.take_left]

theorem splitAtChar_ne_nil (sep : Char) (t : Text) : splitAtChar sep t ≠ [] := by
  cases t with
  | nil => simp [splitAtChar]
  | cons c rest =>
    unfold splitAtChar
    split
    · simp
    · split <;> simp

theorem splitAtChar_of_notMem {sep : Char} {t : Text} (h : sep ∉ t) : splitAtChar sep t = [t] := by
  induction t with
  | nil => rfl
  | cons c rest ih =>
    rw [List.mem_cons, not_or] at h
    rw [splitAtChar, if_neg (Ne.symm h.1), ih h.2]

/-- A text without the separator is the first part of what starts with it and the separator. -/
theorem splitAtChar_append_cons {sep : Char} {t : Text} (h : sep ∉ t) (rest : Text) :
    splitAtChar sep (t ++ sep :: rest) = t :: splitAtChar sep rest := by
  induction t with
  | nil => exact if_pos rfl
  | cons c t ih =>
    rw [List.mem_cons, not_or] at h
    rw [List.cons_append, splitAtChar, if_neg (Ne.symm h.1), ih h.2]

/-- Joining the parts with the separator gives the text back. -/
theorem intercalate_splitAtChar (sep : Char) (t : Text) :
    [sep].intercalate (splitAtChar sep t) = t := by
  induction t with
  | nil => rfl
  | cons c rest ih =>
    unfold splitAtChar
    split
    · rename_i h
      subst h
      cases hs : splitAtChar c rest with
      | nil => exact absurd hs (splitAtChar_ne_nil c rest)
      | cons part parts =>
        rw [hs] at ih
        simpa [List.intercalate] using ih
    · cases hs : splitAtChar sep rest with
      | nil => exact absurd hs (splitAtChar_ne_nil sep rest)
      | cons part parts =>
        rw [hs] at ih
        cases parts <;> simp_all [List.intercalate]

end Text

end Copyedit
