import Copyedit.Text.Basic
import Copyedit.Text.Numerals

/-!
# Templates

A message or a suggestion may refer to what an element matched: a backslash followed by decimal digits
stands for the matched text of the element with that number. Expansion goes through a template once;
what it puts in is never looked at again. Main statement: the pieces of a template, written out, are the
template.
-/

namespace Copyedit.Pattern

/-- A piece of a template. -/
inductive Piece where
  /-- A character that stands for itself. -/
  | char (c : Char)
  /-- A reference by the digits of its number. -/
  | reference (digits : Text)
  deriving DecidableEq, Repr

namespace Piece

/-- The piece as it is written. -/
def written : Piece → Text
  | char c => [c]
  | reference digits => '\\' :: digits

/-- What the piece stands for; `text` tells what a number refers to, unless it refers to nothing. -/
def put {ε : Type} (text : Nat → Except ε Text) : Piece → Except ε Text
  | char c => .ok [c]
  | reference digits => text (numberOf digits)

end Piece

/-- The pieces of a template. A reference takes all digits that follow its backslash. -/
def pieces : Text → List Piece
  | [] => []
  | c :: rest =>
    if c = '\\' ∧ (rest.takeWhile isDecimal) ≠ [] then
      .reference (rest.takeWhile isDecimal) :: pieces (rest.dropWhile isDecimal)
    else .char c :: pieces rest
  termination_by t => t.length
  decreasing_by
    · have := (List.dropWhile_sublist (p := isDecimal) (l := rest)).length_le
      simp only [List.length_cons]
      omega
    · simp

/-- Writing the pieces out gives the template back. -/
theorem flatMap_written_pieces (t : Text) : (pieces t).flatMap Piece.written = t := by
  fun_induction pieces t with
  | case1 => rfl
  | case2 c rest h ih =>
    obtain ⟨rfl, -⟩ := h
    simp [Piece.written, ih, List.takeWhile_append_dropWhile]
  | case3 c rest h ih => simp [Piece.written, ih]

/-- The digits of all references. -/
def references (t : Text) : List Text :=
  (pieces t).filterMap fun
    | .char _ => none
    | .reference digits => some digits

/-- A template with the text of each reference put in, unless one of them leads to none. -/
def expand {ε : Type} (text : Nat → Except ε Text) (t : Text) : Except ε Text := do
  return (← (pieces t).mapM (Piece.put text)).flatten

end Copyedit.Pattern
