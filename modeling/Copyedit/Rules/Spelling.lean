import Copyedit.Finding
import Copyedit.Ranking.Ranker
import Copyedit.Sentence.Tokenize
import Copyedit.Spelling.Speller
import Copyedit.Text.NormalForm

/-!
# Spelling

Words that no dictionary accepts are reported with suggestions. Tokens without letters, addresses and
ignored words are skipped. Words are compared in composed form. If nothing is found at the least
distance, longer words are tried at greater ones. Prohibited words are always reported, and never
suggested.
-/

namespace Copyedit

open Spelling (Candidate MultiSpeller Dictionary)
open Ranking (Ranker)

/-! ### Addresses -/

/-- The text without a newline at its very end. -/
def Text.withoutLastNewline (t : Text) : Text := if t.getLast? = some '\n' then t.dropLast else t

/-- Whether a text is not empty and has no blanks. -/
def Text.isUnbroken (t : Text) : Bool := !t.isEmpty && !t.any isBlank

/-- Whether a text as a whole is a web address. -/
def Text.isWebAddress (t : Text) : Bool :=
  let t := t.withoutLastNewline
  t.afterScheme?.any Text.isUnbroken || t.afterWww?.any Text.isUnbroken

/-- Whether a text as a whole is an e-mail address. -/
def Text.isMailAddress (t : Text) : Bool :=
  match t.withoutLastNewline.splitAtChar '@' with
  | [mailbox, domain] =>
    let parts := domain.splitAtChar '.'
    !mailbox.isEmpty && mailbox.all isMailboxChar && 2 ≤ parts.length &&
      parts.all fun p => !p.isEmpty && p.all isDomainChar
  | _ => false

/-! ### The rule -/

/-- The settings of a spelling rule. -/
structure SpellingOptions where
  /-- The identifier. -/
  id : String := "SPELLER_RULE"
  /-- The distances to try, ascending. -/
  distances : List Int := [1, 2, 3]
  /-- The least length of words that are tried at more than one distance. -/
  escalationLength : Int := 5
  /-- The greatest number of suggestions; 0 for all of them. -/
  maxSuggestions : Int := 10
  /-- Words that are never reported. -/
  ignored : List Text := []
  /-- Words that are always reported and never suggested. -/
  prohibited : List Text := []
  /-- Whether tokens with a tag are skipped. -/
  ignoresTagged : Bool := false
  /-- Whether words with hyphens are accepted if their parts are. -/
  splitsCompounds : Bool := true
  /-- The locale that decides how case is converted. -/
  locale : Locale := .english

/-- The rule on spelling. -/
structure SpellingRule (S : Type) where
  /-- The settings. -/
  options : SpellingOptions
  /-- The speller for the least distance. -/
  nearest : MultiSpeller
  /-- The spellers for the greater distances, in order. -/
  wider : List MultiSpeller
  /-- What orders suggestions by their context. -/
  ranker : Ranker S

/-- Whether numbers are positive and ascend. -/
def isAscending : List Int → Bool
  | [] => true
  | [n] => 0 < n
  | n :: m :: rest => 0 < n && n < m && isAscending (m :: rest)

namespace SpellingRule

variable {S : Type} [LT S] [DecidableLT S]

/-- What the rule is about. -/
def description : String := "Possible spelling mistakes"

/-- The rule over dictionaries. -/
def make (dictionaries : List Dictionary) (ranker : Ranker S) (o : SpellingOptions := {}) :
    Except Error (SpellingRule S) := do
  if o.distances.isEmpty || !isAscending o.distances then
    throw (.defect (.badDistances o.distances))
  if o.maxSuggestions < 0 then
    throw (.defect (.argument "max_suggestions" ">= 0" o.maxSuggestions))
  match ← o.distances.mapM fun d => MultiSpeller.make dictionaries d o.locale with
  | nearest :: wider => return ⟨o, nearest, wider, ranker⟩
  | [] => throw (.defect (.badDistances []))

/-- Whether a word is listed, as it is or in lower case. -/
def isListed (words : List Text) (word : Text) : Bool :=
  words.contains word || words.contains word.lower

/-- Whether a token is outside of what a dictionary can judge. -/
def skips (r : SpellingRule S) (t : Token) : Except Error Bool := do
  let word ← t.characters
  return !word.any isLetter || word.isWebAddress || word.isMailAddress ||
    isListed r.options.ignored word || (r.options.ignoresTagged && t.isTagged)

/-- Whether a word is prohibited. -/
def isProhibited (r : SpellingRule S) (word : Text) : Bool := isListed r.options.prohibited word

/-- Whether the parts of a word between its hyphens are all accepted. -/
def acceptsParts (r : SpellingRule S) (word : Text) : Bool :=
  r.options.splitsCompounds && word.contains '-' &&
    (word.splitAtChar '-').all fun p => !p.isEmpty && !r.nearest.isMisspelled p

/-- Whether a word is misspelled. -/
def isMisspelled (r : SpellingRule S) (word : Text) : Bool :=
  let word := word.compose
  r.isProhibited word || (r.nearest.isMisspelled word && !r.acceptsParts word)

/-- The spellers that a word is tried with, in order. -/
def spellersFor (r : SpellingRule S) (word : Text) : List MultiSpeller :=
  r.nearest :: if (word.length : Int) < r.options.escalationLength then [] else r.wider

/-- The candidates from the least distance that yields any, without prohibited ones. -/
def candidates (r : SpellingRule S) (word : Text) : List (Candidate S) :=
  let word := word.compose
  let found := ((r.spellersFor word).map fun m => m.candidates S word).find? (!·.isEmpty)
  (found.getD []).filter fun c => !r.isProhibited c.correction

/-- The corrections of a word, ordered by how well they fit if there is a context. -/
def suggestions (r : SpellingRule S) (word : Text) (context : List (Option Text) := [])
    (position : Int := 0) : Except Error (List Text) := do
  let found := r.candidates word
  let found ← if context.isEmpty then pure found
    else r.ranker.rankCandidates found context position
  let found := found.map (·.correction)
  return if r.options.maxSuggestions = 0 then found else found.take r.options.maxSuggestions.toNat

/-- The message for a word. -/
def messageFor (r : SpellingRule S) (word : Text) : Text :=
  if r.isProhibited word then '\'' :: word ++ "' should not be used.".toList
  else "Possible spelling mistake found.".toList

/-- What a token with an index reports. -/
def tokenFindings (r : SpellingRule S) (s : Sentence) (t : Token) (index : Nat) :
    Except Error (List Finding) := do
  let word ← t.characters
  if (← r.skips t) || !r.isMisspelled word then return []
  return [{
    rule := r.options.id, message := r.messageFor word, start := t.start, stop := ← t.stop
    suggestions := ← r.suggestions word s.words index
    shortMessage := .text "Spelling mistake", firstToken := index, endToken := index + 1 }]

/-- The findings in a sentence. -/
def findings (r : SpellingRule S) (s : Sentence) : Except Error (List Finding) := do
  return (← s.tokens.zipIdx.mapM fun (t, i) => r.tokenFindings s t i).flatten

end SpellingRule

end Copyedit
