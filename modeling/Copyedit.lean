import Copyedit.Casing
import Copyedit.Checker
import Copyedit.Decimal.Binary
import Copyedit.Decimal.Fixed
import Copyedit.Decimal.Integer
import Copyedit.Decimal.Read
import Copyedit.Decimal.Shortest
import Copyedit.Error
import Copyedit.Finding
import Copyedit.Pattern.Constraint
import Copyedit.Pattern.Element
import Copyedit.Pattern.Rule
import Copyedit.Pattern.RuleFile
import Copyedit.Pattern.Show
import Copyedit.Pattern.Template
import Copyedit.Profile.Basic
import Copyedit.Profile.Standard
import Copyedit.Proofs.Casing
import Copyedit.Proofs.Casing.Classification
import Copyedit.Proofs.Checker.Disabling
import Copyedit.Proofs.Checker.Paragraph
import Copyedit.Proofs.Checker.Placement
import Copyedit.Proofs.Checker.Report
import Copyedit.Proofs.Checker.Run
import Copyedit.Proofs.Checker.Shift
import Copyedit.Proofs.Composition
import Copyedit.Proofs.Outcome
import Copyedit.Proofs.Pattern.Expansion
import Copyedit.Proofs.Pattern.Extent
import Copyedit.Proofs.Pattern.Failure
import Copyedit.Proofs.Pattern.Greedy
import Copyedit.Proofs.Pattern.Make
import Copyedit.Proofs.Pattern.Oversight
import Copyedit.Proofs.Pattern.RuleFile
import Copyedit.Proofs.Pattern.Run
import Copyedit.Proofs.Pattern.Scan
import Copyedit.Proofs.Pattern.Shift
import Copyedit.Proofs.Pattern.Textless
import Copyedit.Proofs.Pattern.Unambiguous
import Copyedit.Proofs.Pattern.Word
import Copyedit.Proofs.Ranking.Grams
import Copyedit.Proofs.Ranking.Order
import Copyedit.Proofs.Ranking.Ranker
import Copyedit.Proofs.Rules.Composed
import Copyedit.Proofs.Rules.Escalation
import Copyedit.Proofs.Rules.Extent
import Copyedit.Proofs.Rules.Identity
import Copyedit.Proofs.Rules.Listed
import Copyedit.Proofs.Rules.Recasing
import Copyedit.Proofs.Rules.Repetition
import Copyedit.Proofs.Rules.Replacement
import Copyedit.Proofs.Rules.ReplacementTable
import Copyedit.Proofs.Rules.Shift
import Copyedit.Proofs.Rules.Spacing
import Copyedit.Proofs.Rules.Spelling
import Copyedit.Proofs.Sentence.Boundary
import Copyedit.Proofs.Sentence.Coverage
import Copyedit.Proofs.Sentence.Layout
import Copyedit.Proofs.Sentence.LineEnds
import Copyedit.Proofs.Sentence.Locality
import Copyedit.Proofs.Sentence.Placement
import Copyedit.Proofs.Sentence.Shift
import Copyedit.Proofs.Sentence.Split
import Copyedit.Proofs.Sentence.Surface
import Copyedit.Proofs.Sentence.Tokenize
import Copyedit.Proofs.Sequence
import Copyedit.Proofs.Spelling.Acceptance
import Copyedit.Proofs.Spelling.Bound
import Copyedit.Proofs.Spelling.Capitals
import Copyedit.Proofs.Spelling.Distance
import Copyedit.Proofs.Spelling.EditScript
import Copyedit.Proofs.Spelling.FrequencyList
import Copyedit.Proofs.Spelling.Metric
import Copyedit.Proofs.Spelling.MultiSpeller
import Copyedit.Proofs.Spelling.SingleEdit
import Copyedit.Proofs.Spelling.Speller
import Copyedit.Proofs.Spelling.Ties
import Copyedit.Proofs.Spelling.Trie
import Copyedit.Proofs.Spelling.WordFile
import Copyedit.Proofs.Spelling.WordList
import Copyedit.Proofs.Value
import Copyedit.Proofs.Yaml.Kind
import Copyedit.Proofs.Yaml.Lexer
import Copyedit.Proofs.Yaml.Node
import Copyedit.Proofs.Yaml.Value
import Copyedit.Ranking.Grams
import Copyedit.Ranking.Model
import Copyedit.Ranking.Ranker
import Copyedit.Regex.Basic
import Copyedit.Regex.Expr
import Copyedit.Regex.Fault
import Copyedit.Regex.Lexeme
import Copyedit.Regex.Match
import Copyedit.Regex.Parse
import Copyedit.Rules.Basic
import Copyedit.Rules.Length
import Copyedit.Rules.Repetition
import Copyedit.Rules.Replacement
import Copyedit.Rules.Spacing
import Copyedit.Rules.Spelling
import Copyedit.Sentence.Basic
import Copyedit.Sentence.Split
import Copyedit.Sentence.Tokenize
import Copyedit.Sequence
import Copyedit.Settings
import Copyedit.Spelling.Candidate
import Copyedit.Spelling.Dictionary
import Copyedit.Spelling.Distance
import Copyedit.Spelling.FrequencyList
import Copyedit.Spelling.Speller
import Copyedit.Spelling.Trie
import Copyedit.Spelling.WordList
import Copyedit.Tagging
import Copyedit.Text.Basic
import Copyedit.Text.Blank
import Copyedit.Text.CanonicalTables
import Copyedit.Text.CaseTables
import Copyedit.Text.CharName
import Copyedit.Text.CharName.Alphabets
import Copyedit.Text.CharName.Antiquity
import Copyedit.Text.CharName.Basic
import Copyedit.Text.CharName.EastAsia
import Copyedit.Text.CharName.Forms
import Copyedit.Text.CharName.Notations
import Copyedit.Text.CharName.Pictures
import Copyedit.Text.CharName.Signaries
import Copyedit.Text.CharName.Signs
import Copyedit.Text.CharName.Syllabaries
import Copyedit.Text.CharName.Symbols
import Copyedit.Text.CodeSet
import Copyedit.Text.Encoding
import Copyedit.Text.Fields
import Copyedit.Text.Identifiers
import Copyedit.Text.LetterCase
import Copyedit.Text.Letters
import Copyedit.Text.NormalForm
import Copyedit.Text.Numerals
import Copyedit.Text.Printable
import Copyedit.Text.Quoted
import Copyedit.TextFile
import Copyedit.Token
import Copyedit.Value.Basic
import Copyedit.Value.Show
import Copyedit.Yaml.Cursor
import Copyedit.Yaml.Kind
import Copyedit.Yaml.Lexer
import Copyedit.Yaml.Node
import Copyedit.Yaml.Scalar
import Copyedit.Yaml.ScalarValue
import Copyedit.Yaml.Token
import Copyedit.Yaml.Value
