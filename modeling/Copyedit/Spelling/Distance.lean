import Copyedit.Text.Basic

/-!
# Edit distance

The least number of single-character insertions, deletions and substitutions that turn one text into
another, computed row by row: the row of a text `a` against a word holds the distances from `a` to all
beginnings of the word. A bounded computation stops as soon as every entry of a row is past the bound.
`EditScript a b n` is the relation that the distance is the least member of.
-/

namespace Copyedit

/-- `b` can be made from `a` by a script that costs `n`. -/
inductive EditScript : Text → Text → Nat → Prop where
  /-- Nothing to do. -/
  | nil : EditScript [] [] 0
  /-- A character is kept. -/
  | keep {a b : Text} {n : Nat} (c : Char) : EditScript a b n → EditScript (c :: a) (c :: b) n
  /-- A character is deleted. -/
  | delete {a b : Text} {n : Nat} (c : Char) : EditScript a b n → EditScript (c :: a) b (n + 1)
  /-- A character is inserted. -/
  | insert {a b : Text} {n : Nat} (c : Char) : EditScript a b n → EditScript a (c :: b) (n + 1)
  /-- A character is replaced by another. -/
  | substitute {a b : Text} {n : Nat} (c d : Char) :
      EditScript a b n → EditScript (c :: a) (d :: b) (n + 1)

namespace Spelling

/-- The rest of a row, given the entry to the left and the row above from one column before. -/
def fillRow (c : Char) (left : Nat) : Text → List Nat → List Nat
  | w :: word, diagonal :: above :: row =>
    let here := min (min (above + 1) (left + 1)) (diagonal + if w = c then 0 else 1)
    here :: fillRow c here word (above :: row)
  | _, _ => []

/-- The row after one more character, from the row before it. -/
def nextRow (word : Text) (c : Char) : List Nat → List Nat
  | [] => []
  | first :: row => (first + 1) :: fillRow c (first + 1) word (first :: row)

/-- The row of the empty text. -/
def firstRow (word : Text) : List Nat := List.range (word.length + 1)

/-- The row of a text. -/
def rowOf (word a : Text) : List Nat := a.foldl (fun row c => nextRow word c row) (firstRow word)

/-- The last entry of a row. -/
def lastOf (row : List Nat) : Nat := row.getLast?.getD 0

/-- The least entry of a row. -/
def leastOf (row : List Nat) : Nat := row.min?.getD 0

/-- The distance between two texts; there is a row for each character of the longer one. -/
def distance (a b : Text) : Nat :=
  if a.length < b.length then lastOf (rowOf a b) else lastOf (rowOf b a)

/-- Runs through the rows of a text as long as some entry is within the bound. -/
def boundedRows (word : Text) (bound : Nat) : Text → List Nat → Option (List Nat)
  | [], row => some row
  | c :: rest, row =>
    let row := nextRow word c row
    if bound < leastOf row then none else boundedRows word bound rest row

/-- The distance between two texts if it is at most `bound`. -/
def boundedDistance (a b : Text) (bound : Int) : Option Nat :=
  if ((a.length : Int) - b.length).natAbs > bound then none
  else match boundedRows b bound.toNat a (firstRow b) with
    | some row => if lastOf row ≤ bound then some (lastOf row) else none
    | none => none

end Spelling

end Copyedit
