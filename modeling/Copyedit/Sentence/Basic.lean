import Copyedit.Token

/-!
# Sentences

A sentence with its tokens and its position in the document.
-/

namespace Copyedit

/-- A sentence as a sequence of tokens; blanks are no tokens. -/
structure Sentence where
  /-- The characters of the sentence. -/
  text : Text
  /-- The tokens in order. -/
  tokens : List Token
  /-- The position of the first character in the document. -/
  start : Int := 0
  deriving DecidableEq, Repr

namespace Sentence

/-- The texts of the tokens. -/
def words (s : Sentence) : List (Option Text) := s.tokens.map (·.text)

end Sentence

/-- Tokens joined to a text again, with one space where a blank stood before a token. The first token
without a text is an error. -/
def surfaceText (tokens : List Token) : Except Error Text :=
  let parts : List (Option Text) := match tokens with
    | [] => []
    | first :: rest =>
      first.text :: rest.flatMap fun t => (if t.spaceBefore then [some [' ']] else []) ++ [t.text]
  match parts.findIdx? (·.isNone) with
  | some i => .error (.kind (.notJoinable i "NoneType"))
  | none => .ok (parts.flatMap (·.getD []))

end Copyedit
