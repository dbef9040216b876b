import Copyedit.Text.Basic
import Copyedit.Value.Basic

/-!
# Findings

What a rule reports: a stretch of the text, in characters and in tokens, with a message and suggestions.
-/

namespace Copyedit

/-- A stretch of text that a rule reports. -/
structure Finding where
  /-- The identifier of the rule. -/
  rule : String
  /-- What is wrong. -/
  message : Text
  /-- The position of the first character. -/
  start : Int
  /-- The position after the last character. -/
  stop : Int
  /-- Corrections, the best first. -/
  suggestions : List Text := []
  /-- The message in short. -/
  shortMessage : Value := .text ""
  /-- The index of the first token. -/
  firstToken : Int := 0
  /-- The index after the last token. -/
  endToken : Int := 0

end Copyedit
