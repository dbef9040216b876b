import Copyedit.Casing
import Copyedit.Finding
import Copyedit.Sentence.Basic
import Copyedit.Sequence
import Copyedit.Text.Fields
import Copyedit.TextFile

/-!
# Listed replacements

A table lists wrong words with their replacements. Unless case matters, a word is looked up in lower case
and its replacements follow its casing. Tables are written one wrong word a line, or several with bars
between them, then an equals sign and the replacements.
-/

namespace Copyedit

/-- Wrong words with their replacements, in order. -/
abbrev ReplacementTable := List (Text × List Text)

/-! ### Lines of a table -/

namespace ReplacementTable

/-- The parts between bars, without blanks around them; empty ones are left out. -/
def alternatives (t : Text) : List Text :=
  ((t.splitAtChar '|').map Text.trim).filter (!·.isEmpty)

/-- A line without its end. -/
def withoutEnd (line : Text) : Text := Text.dropEndWhile (fun c => c = '\r' || c = '\n') line

/-- Whether a line says nothing: it is blank, or a comment. -/
def isSkipped (line : Text) : Bool := line.isAllBlank || line.head? = some '#'

/-- The wrong words and the replacements of a line with a number. -/
def readLine (source : String) (number : Nat) (line : Text) : Except Error (List Text × List Text) :=
  match line.splitAtChar '=' with
  | [left, right] =>
    let wrong := alternatives left
    let replacements := alternatives right
    if wrong.isEmpty || replacements.isEmpty then
      .error (.defect (.emptyReplacementLine source number line))
    else .ok (wrong, replacements)
  | _ => .error (.defect (.badReplacementLine source number line))

/-- Adds the lines from a number on to a table. A wrong word that is listed again keeps its place and
takes its last replacements. -/
def readFrom (source : String) (table : ReplacementTable) (number : Nat) :
    List Text → Except Error ReplacementTable
  | [] => .ok table
  | line :: rest => do
    let line := withoutEnd line
    if isSkipped line then readFrom source table (number + 1) rest
    else
      let (wrong, replacements) ← readLine source number line
      readFrom source (wrong.foldl (fun t w => putKey t w replacements) table) (number + 1) rest

/-- The table that lines write. -/
def ofLines (lines : List Text) (source : String := "<lines>") : Except Error ReplacementTable :=
  readFrom source [] 1 lines

/-- The table in a file. -/
def load (f : TextFile) (encoding : Encoding := .utf8) : Except Error ReplacementTable := do
  ofLines (← f.read .replacements encoding).lines f.name

end ReplacementTable

/-! ### The rule -/

/-- The rule on listed words. -/
structure ReplacementRule where
  /-- The identifier. -/
  id : String
  /-- What the rule is about. -/
  description : String
  /-- The message, a template with the word and the suggestions. -/
  message : Text
  /-- The message in short. -/
  shortMessage : String
  /-- Whether a word must have the case in which it is listed. -/
  caseSensitive : Bool
  /-- The locale that decides how case is converted. -/
  locale : Locale
  /-- The wrong words. -/
  table : ReplacementTable
  /-- The replacements by the form that is looked up. -/
  forms : ReplacementTable

namespace ReplacementRule

/-- The message unless another one is given. -/
def standardMessage : String := "'\x7bword\x7d' may be wrong. Did you mean \x7bsuggestions\x7d?"

/-- The settings of the rule other than its table. -/
structure Options where
  /-- The identifier. -/
  id : String := "SIMPLE_REPLACE"
  /-- What the rule is about. -/
  description : String := "Words with a listed replacement"
  /-- The message, a template with the word and the suggestions. -/
  message : String := standardMessage
  /-- The message in short. -/
  shortMessage : String := "Wrong word"
  /-- Whether a word must have the case in which it is listed. -/
  caseSensitive : Bool := false
  /-- The locale that decides how case is converted. -/
  locale : Locale := .english

/-- The entry of a wrong word without empty replacements; one is needed. -/
def checkEntry (rule : String) (e : Text × List Text) : Except Error (Text × List Text) :=
  let replacements := e.2.filter (!·.isEmpty)
  if e.1.isEmpty || replacements.isEmpty then .error (.defect (.noReplacement rule e.1))
  else .ok (e.1, replacements)

/-- The rule for a table. -/
def make (table : ReplacementTable) (o : Options := {}) : Except Error ReplacementRule := do
  let table ← (tableOf table).mapM (checkEntry o.id)
  return {
    id := o.id, description := o.description, message := o.message.toList
    shortMessage := o.shortMessage, caseSensitive := o.caseSensitive, locale := o.locale, table
    forms := if o.caseSensitive then table
      else tableOf (table.map fun e => (o.locale.lower e.1, e.2)) }

/-- The replacements for a word, in its casing unless case matters; none if it is not listed. -/
def replacementsFor (r : ReplacementRule) (word : Text) : List Text :=
  if r.caseSensitive then (r.forms.lookup word).getD []
  else ((r.forms.lookup (r.locale.lower word)).getD []).map fun s =>
    r.locale.convert s .preserve (some word)

/-- The suggestions as the message lists them. -/
def listed (suggestions : List Text) : Text :=
  " or ".toList.intercalate (suggestions.map fun s => '\'' :: s ++ ['\''])

/-- What a token with an index reports. -/
def tokenFindings (r : ReplacementRule) (t : Token) (index : Nat) : Except Error (List Finding) :=
  match t.text with
  | none => .ok []
  | some word =>
    let suggestions := r.replacementsFor word
    if suggestions.isEmpty then .ok []
    else do
      let message ← fill [("word", word), ("suggestions", listed suggestions)] r.message
      return [{
        rule := r.id, message, start := t.start, stop := ← t.stop, suggestions
        shortMessage := .text r.shortMessage, firstToken := index, endToken := index + 1 }]

/-- The findings in a sentence. -/
def findings (r : ReplacementRule) (s : Sentence) : Except Error (List Finding) := do
  return (← s.tokens.zipIdx.mapM fun (t, i) => r.tokenFindings t i).flatten

end ReplacementRule

end Copyedit
