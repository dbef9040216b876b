import Copyedit.Pattern.Show
import Copyedit.Rules.Length
import Copyedit.Rules.Repetition
import Copyedit.Rules.Replacement
import Copyedit.Rules.Spacing
import Copyedit.Rules.Spelling

/-!
# Rules

A rule looks at one sentence after the other, or at all sentences of a text at once. Rules may also come
from outside, with any behaviour.
-/

namespace Copyedit

/-- What a rule from outside looks at. -/
inductive Inspection where
  /-- Each sentence. -/
  | sentence (run : Sentence → Except Error (List Finding))
  /-- All sentences of a text, and the text if it is known. -/
  | text (run : List Sentence → Option Text → Except Error (List Finding))

/-- A rule from outside. -/
structure ForeignRule where
  /-- The kind of rule, for reports. -/
  kind : String
  /-- The identifier. -/
  id : String
  /-- What the rule is about. -/
  description : String
  /-- What it does. -/
  inspection : Inspection

/-- A rule. -/
inductive Rule where
  /-- A pattern of tokens. -/
  | pattern (r : Pattern.Rule)
  /-- Listed words. -/
  | replacement (r : ReplacementRule)
  /-- Spelling. -/
  | spelling (r : SpellingRule Float)
  /-- Repeated words. -/
  | repetition (r : RepetitionRule)
  /-- Repeated spaces. -/
  | spacing
  /-- Long sentences. -/
  | longSentence (l : WordLimit)
  /-- Long paragraphs. -/
  | longParagraph (l : WordLimit)
  /-- A rule from outside. -/
  | foreign (r : ForeignRule)

namespace Rule

/-- The identifier of a rule. -/
def id : Rule → String
  | pattern r => r.id
  | replacement r => r.id
  | spelling r => r.options.id
  | repetition _ => RepetitionRule.id
  | spacing => Spacing.id
  | longSentence _ => LongSentence.id
  | longParagraph _ => LongParagraph.id
  | foreign r => r.id

/-- What a rule is about. -/
def description : Rule → Value
  | pattern r => r.description
  | replacement r => .text r.description
  | spelling _ => .text SpellingRule.description
  | repetition _ => .text RepetitionRule.description
  | spacing => .text Spacing.description
  | longSentence _ => .text LongSentence.description
  | longParagraph _ => .text LongParagraph.description
  | foreign r => .text r.description

/-- The kind of rule, for reports. -/
def kind : Rule → String
  | pattern _ => "PatternRule"
  | replacement _ => "SimpleReplaceRule"
  | spelling _ => "SpellerRule"
  | repetition _ => "WordRepeatRule"
  | spacing => "MultipleWhitespaceRule"
  | longSentence _ => "LongSentenceRule"
  | longParagraph _ => "LongParagraphRule"
  | foreign r => r.kind

/-- The rule as reports name it. -/
def shown : Rule → String
  | pattern r => r.shown
  | r => r.kind ++ "(id=" ++ quoteString r.id ++ ")"

/-- What the rule does, and on what. -/
def inspection : Rule → Inspection
  | pattern r => .sentence fun s => r.findings s.tokens
  | replacement r => .sentence r.findings
  | spelling r => .sentence r.findings
  | repetition r => .sentence r.findings
  | spacing => .sentence Spacing.findings
  | longSentence l => .sentence (LongSentence.findings l)
  | longParagraph l => .text (LongParagraph.findings l)
  | foreign r => r.inspection

/-- Whether the rule looks at all sentences of a text at once. -/
def isTextLevel (r : Rule) : Bool :=
  match r.inspection with
  | .sentence _ => false
  | .text _ => true

/-- The findings in one sentence. -/
def findings (r : Rule) (s : Sentence) : Except Error (List Finding) :=
  match r.inspection with
  | .sentence run => run s
  | .text run => run [s] none

/-- The findings in the sentences of a text, and in the text as a whole. -/
def findingsIn (r : Rule) (sentences : List Sentence) (text : Option Text) :
    Except Error (List Finding) :=
  match r.inspection with
  | .sentence run => do return (← sentences.mapM run).flatten
  | .text run => run sentences text

end Rule

end Copyedit
