import Copyedit.Finding
import Copyedit.Sentence.Basic
import Copyedit.Sequence
import Copyedit.Text.Letters
import Copyedit.Text.Numerals

/-!
# Long sentences and paragraphs

Sentences and paragraphs with more words than a limit are reported. A paragraph is a block of sentences
between blank lines; it is reported from its first word to the last one within the limit.
-/

namespace Copyedit

/-- A number of words, which is positive. -/
structure WordLimit where
  /-- The greatest number of words. -/
  most : Int
  /-- There is at least one. -/
  most_pos : 1 ≤ most

namespace WordLimit

/-- A number of words; it must be positive. -/
def make (most : Int) : Except Error WordLimit :=
  if h : 1 ≤ most then .ok ⟨most, h⟩ else .error (.defect (.argument "max_words" ">= 1" most))

/-- The words of a sentence unless another number is given. -/
def ofSentence : WordLimit := ⟨50, by decide⟩

/-- The words of a paragraph unless another number is given. -/
def ofParagraph : WordLimit := ⟨80, by decide⟩

/-- The message for too many words. -/
def message (l : WordLimit) (what : String) (count : Nat) : Text :=
  s!"This {what} has {count} words, more than {l.most}. Consider splitting it.".toList

end WordLimit

namespace LongSentence

/-- The identifier of the rule on long sentences. -/
def id : String := "TOO_LONG_SENTENCE"

/-- What the rule is about. -/
def description : String := "Readability: sentence over a word limit"

/-- Whether a token counts as a word: it has a letter, or all its characters are digits. -/
def isWord (t : Token) : Except Error Bool := do
  let text ← t.characters
  return text.any isLetter || (!text.isEmpty && text.all isDigit)

/-- The findings in a sentence. -/
def findings (l : WordLimit) (s : Sentence) : Except Error (List Finding) := do
  let count := ((← s.tokens.mapM isWord).filter fun b => b).length
  match s.tokens.head?, s.tokens.getLast? with
  | some first, some last =>
    if l.most < count then
      return [{
        rule := LongSentence.id, message := l.message "sentence" count
        start := first.start, stop := ← last.stop, shortMessage := .text "Long sentence"
        firstToken := 0, endToken := s.tokens.length }]
    else return []
  | _, _ => return []

end LongSentence

namespace LongParagraph

/-- The identifier of the rule on long paragraphs. -/
def id : String := "TOO_LONG_PARAGRAPH"

/-- What the rule is about. -/
def description : String := "Readability: paragraph over a word limit"

/-- Whether a text starts with spaces or tabs and then a newline. -/
def startsBlankLine : Text → Bool
  | [] => false
  | c :: rest => c = '\n' || ((c = ' ' || c = '\t') && startsBlankLine rest)

/-- Whether a text holds a blank line. -/
def hasBlankLine : Text → Bool
  | [] => false
  | c :: rest => (c = '\n' && startsBlankLine rest) || hasBlankLine rest

/-- Whether a paragraph ends between two sentences of a text. -/
def breaksBetween (text : Text) (previous next : Sentence) : Bool :=
  hasBlankLine (stretch text (previous.start + previous.text.length) next.start)

/-- Puts a sentence in front of paragraphs. -/
def addSentence (text : Option Text) (s : Sentence) : List (List Sentence) → List (List Sentence)
  | (next :: rest) :: more =>
    if (text.map fun t => breaksBetween t s next).getD false then [s] :: (next :: rest) :: more
    else (s :: next :: rest) :: more
  | more => [s] :: more

/-- The paragraphs that sentences of a text make; without the text there is one. -/
def paragraphs (sentences : List Sentence) (text : Option Text) : List (List Sentence) :=
  sentences.foldr (addSentence text) []

/-- Whether a token counts as a word: it has an alphanumeric character. -/
def isWord (t : Token) : Except Error Bool := do return (← t.characters).any isAlphanumeric

/-- The words among tokens. -/
def wordsOf : List Token → Except Error (List Token)
  | [] => .ok []
  | t :: rest => do
    if ← isWord t then return t :: (← wordsOf rest) else wordsOf rest

/-- The findings in a paragraph: one if it is too long. -/
def paragraphFindings (l : WordLimit) (paragraph : List Sentence) :
    Except Error (List Finding) := do
  let words ← wordsOf (paragraph.flatMap (·.tokens))
  if words.length ≤ l.most then return []
  match words.head?, words[l.most.toNat - 1]? with
  | some first, some last =>
    return [{
      rule := id, message := l.message "paragraph" words.length
      start := first.start, stop := ← last.stop, shortMessage := .text "Long paragraph" }]
  | _, _ => return []

/-- The findings in the sentences of a text. -/
def findings (l : WordLimit) (sentences : List Sentence) (text : Option Text) :
    Except Error (List Finding) := do
  return (← (paragraphs sentences text).mapM (paragraphFindings l)).flatten

end LongParagraph

end Copyedit
