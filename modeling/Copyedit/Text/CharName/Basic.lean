import Copyedit.Text.Basic

/-!
# Names of characters: runs

The names of neighbouring characters begin alike, so a run of names is kept short: before each name stands
a small letter that tells how many words it shares with the name before it, `a` for none, and only the
other words follow. Names hold no small letters, so these also part one name from the next.
-/

namespace Copyedit.CharName

/-- The names of consecutive characters. -/
structure Run where
  /-- The code point of the first character. -/
  first : Nat
  /-- The names, shortened, in lines of any length. -/
  coded : List String

/-- Whether a character starts a name in a run. -/
def isMark (c : Char) : Bool := 'a' ≤ c && c ≤ 'z'

/-- The names in a run, each with the number of words that it shares and with its other words. What
stands before the first mark comes apart. -/
def marked (t : Text) : Text × List (Nat × Text) :=
  t.foldr (fun c (rest, names) =>
    if isMark c then ([], (c.toNat - 'a'.toNat, rest) :: names) else (c :: rest, names)) ([], [])

/-- The words of a text. -/
def words (t : Text) : List Text := if t.isEmpty then [] else t.splitAtChar ' '

/-- The words of each name, after a name with the words `last`. -/
def wordsAfter (last : List Text) : List (Nat × Text) → List (List Text)
  | [] => []
  | (shared, others) :: rest =>
    let name := last.take shared ++ words others
    name :: wordsAfter name rest

/-- The words of the names in a run. -/
def Run.names (r : Run) : List (List Text) := wordsAfter [] (marked (r.coded.flatMap String.toList)).2

/-- The code point of the character whose name has these words. -/
def Run.find? (r : Run) (name : List Text) : Option Nat :=
  (r.names.findIdx? (· == name)).map (r.first + ·)

end Copyedit.CharName
