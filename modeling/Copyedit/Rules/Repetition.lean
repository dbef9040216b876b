import Copyedit.Finding
import Copyedit.Sentence.Basic
import Copyedit.Text.Letters

/-!
# Repeated words

A word that comes twice in a row is reported, whatever its case, unless it is allowed to. Numbers and
symbols are no words. Of three in a row only the first two are reported.
-/

namespace Copyedit

/-- The rule on repeated words. -/
structure RepetitionRule where
  /-- The words that may be repeated, in lower case. -/
  allowed : List Text

namespace RepetitionRule

/-- The rule with words that may be repeated. -/
def make (allowed : List Text := []) : RepetitionRule := ⟨allowed.map Text.lower⟩

/-- The identifier. -/
def id : String := "WORD_REPEAT_RULE"

/-- What the rule is about. -/
def description : String := "Word repetition (e.g. 'will will')"

/-- Whether a token repeats the one before it. -/
def isRepeat (r : RepetitionRule) (previous token : Token) : Except Error Bool := do
  let word ← token.lowered
  if !(token.text.any fun t => t.any isLetter) then return false
  return word == (← previous.lowered) && !r.allowed.contains word && token.spaceBefore

/-- What a repeated word reports; `index` is that of the first of the two. -/
def report (index : Nat) (previous token : Token) : Except Error Finding := do
  return {
    rule := id, message := "Possible typo: you repeated a word.".toList
    start := previous.start, stop := ← token.stop
    suggestions := [previous.text.getD []], shortMessage := .text "Word repetition"
    firstToken := index, endToken := index + 2 }

/-- The findings in tokens, of which the first has an index. -/
def findingsFrom (r : RepetitionRule) (index : Nat) : List Token → Except Error (List Finding)
  | previous :: token :: rest => do
    if ← r.isRepeat previous token then
      return (← report index previous token) :: (← r.findingsFrom (index + 2) rest)
    else r.findingsFrom (index + 1) (token :: rest)
  | _ => .ok []

/-- The findings in a sentence. -/
def findings (r : RepetitionRule) (s : Sentence) : Except Error (List Finding) :=
  r.findingsFrom 0 s.tokens

end RepetitionRule

end Copyedit
