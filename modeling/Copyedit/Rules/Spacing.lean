import Copyedit.Finding
import Copyedit.Sentence.Basic

/-!
# Repeated spaces

Two or more spaces between visible characters are reported; a space may be one that does not break the
line. Tabs are tolerated, and so are spaces next to other blanks.
-/

namespace Copyedit.Spacing

/-- The identifier of the rule on repeated spaces. -/
def id : String := "WHITESPACE_RULE"

/-- What the rule is about. -/
def description : String := "Whitespace repetition (bad formatting)"

/-- Whether a character is a space, breaking or not. -/
def isSpace (c : Char) : Bool := c = ' ' || c = '\u00a0'

/-- What stands before a character. -/
inductive Before where
  /-- A visible character. -/
  | visible
  /-- Spaces from a position on, after a visible character. -/
  | spaces (first : Nat)
  /-- Another blank, spaces after one, or nothing. -/
  | blank
  deriving DecidableEq, Repr

/-- The runs of spaces in a text from a position on. -/
def runsFrom (before : Before) (position : Nat) : Text → List (Nat × Nat)
  | [] => []
  | c :: rest =>
    if isSpace c then
      let before := match before with
        | .visible => .spaces position
        | b => b
      runsFrom before (position + 1) rest
    else if isBlank c then runsFrom .blank (position + 1) rest
    else match before with
      | .spaces first =>
        if first + 2 ≤ position then
          (first, position) :: runsFrom .visible (position + 1) rest
        else runsFrom .visible (position + 1) rest
      | _ => runsFrom .visible (position + 1) rest

/-- The runs of spaces that are reported: first position and position after the last. -/
def runs (t : Text) : List (Nat × Nat) := runsFrom .blank 0 t

/-- What a run of spaces reports, between the tokens that it stands between. -/
def report (s : Sentence) (run : Nat × Nat) : Except Error Finding := do
  let start := s.start + run.1
  let stops ← s.tokens.mapM Token.stop
  let before := (stops.filter (· ≤ start)).length
  return {
    rule := id, message := "Possible typo: you repeated a whitespace.".toList
    start, stop := s.start + run.2, suggestions := [[' ']]
    shortMessage := .text "Whitespace repetition", firstToken := before, endToken := before }

/-- The findings in a sentence. -/
def findings (s : Sentence) : Except Error (List Finding) := (runs s.text).mapM (report s)

end Copyedit.Spacing
