import Copyedit.Text.Basic

/-!
# Candidates

A candidate is a possible correction of a misspelled word with its distance and, once a language model
has judged it, its score. Candidates are ordered by score, the best first and those without one last,
then by distance, then by the correction itself.
-/

namespace Copyedit.Spelling

/-- A possible correction. -/
structure Candidate (S : Type) where
  /-- The corrected text. -/
  correction : Text
  /-- The number of edits. -/
  distance : Int
  /-- How well it fits its context, if that is known. -/
  score : Option S := none
  deriving Repr

namespace Candidate

variable {S : Type} [LT S] [DecidableLT S]

/-- Whether `a` may stand before `b` by distance and correction. -/
def leByText (a b : Candidate S) : Bool :=
  a.distance < b.distance || (a.distance == b.distance && a.correction.le b.correction)

/-- Whether `a` may stand before `b`: by score, then distance, then correction. -/
def le (a b : Candidate S) : Bool :=
  match a.score, b.score with
  | some x, some y => if y < x then true else if x < y then false else leByText a b
  | some _, none => true
  | none, some _ => false
  | none, none => leByText a b

/-- The candidates in order. -/
def ordered (cs : List (Candidate S)) : List (Candidate S) := cs.mergeSort le

end Candidate

end Copyedit.Spelling
