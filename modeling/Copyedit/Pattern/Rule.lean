import Copyedit.Casing
import Copyedit.Finding
import Copyedit.Pattern.Element
import Copyedit.Pattern.Template
import Copyedit.Sequence
import Copyedit.Sentence.Basic

/-!
# Pattern rules

A pattern rule says what consecutive tokens must look like, and what is reported when they do: a message,
and suggestions made from the matched text. One element may be the source of the suggestions: its text
is converted to another casing, which may be copied from a sample.

Each element takes as many tokens as it can and never gives one back; a run that takes no token at all is
no match. Matches are looked for from left to right and never overlap. A token that cannot be tested,
for instance because it has no text, is not accepted.
-/

namespace Copyedit.Pattern

/-! ### Definitions -/

/-- A pattern rule as it is given. -/
structure Definition where
  /-- The identifier. -/
  id : String
  /-- The parts of the pattern. -/
  elements : List Element
  /-- The message, a template. -/
  message : Value
  /-- The number of the element that suggestions are made from. -/
  source : Value := .null
  /-- How its text is converted. -/
  conversion : Conversion := .keep
  /-- The text whose casing is copied. -/
  sample : Value := .null
  /-- The number of the element whose casing is copied; it goes before the sample. -/
  sampleSource : Value := .null
  /-- The suggestions, templates. -/
  suggestions : Value := .list []
  /-- Whether case matters to elements that do not say. -/
  caseSensitive : Value := .bool false
  /-- The message in short. -/
  shortMessage : Value := .text ""
  /-- What the rule is about. -/
  description : Value := .text ""
  /-- The locale of the conversion. -/
  locale : Locale := .english

/-- A pattern rule. -/
structure Rule where
  /-- The identifier. -/
  id : String
  /-- The parts of the pattern. -/
  elements : List Element
  /-- The message. -/
  message : Text
  /-- The number of the element that suggestions are made from. -/
  source : Value
  /-- How its text is converted. -/
  conversion : Conversion
  /-- The text whose casing is copied. -/
  sample : Option Text
  /-- The number of the element whose casing is copied. -/
  sampleSource : Value
  /-- The suggestions. -/
  suggestions : List Text
  /-- Whether case matters to elements that do not say. -/
  caseSensitive : Value
  /-- The message in short. -/
  shortMessage : Value
  /-- What the rule is about. -/
  description : Value
  /-- The locale of the conversion. -/
  locale : Locale

namespace Rule

/-- The items of a collection. -/
def itemsOf (v : Value) : Except KindFault (List Value) :=
  match v.bare with
  | .list items => .ok items
  | .set items => .ok items
  | .pair k v => .ok [k, v]
  | .map entries => .ok (entries.map (·.1))
  | .text s => .ok (s.toList.map fun c => .text (String.singleton c))
  | .bytes bs => .ok (bs.map fun b => .int (Int.ofNat b))
  | v => .error (.notIterable v.longKindName)

/-- Checks that a value is null or the number of one of `count` elements. -/
def checkNumber (rule what : String) (count : Nat) (v : Value) : Except Error Unit :=
  match v with
  | .null => .ok ()
  | v =>
    match v.number? with
    | none => .error (.kind (.notOrdered "<=" "int" v.longKindName))
    | some _ =>
      if (Value.atMost? (.int 1) v).getD false && (v.atMost? (.int count)).getD false then .ok ()
      else .error (.ofDefect (.noSuchElement rule what v count))

/-- Checks that a template is a text whose references are to elements. -/
def checkTemplate (rule : String) (count : Nat) (v : Value) : Except Error Text :=
  match v with
  | .text s => do
    let t := s.toList
    let isGood (digits : Text) : Bool :=
      digits.length ≤ Decimal.digitLimit && 1 ≤ numberOf digits && numberOf digits ≤ count
    match (references t).find? fun digits => !isGood digits with
    | some digits =>
      if Decimal.digitLimit < digits.length then throw (.value .tooManyDigits)
      else throw (.defect (.badReference rule digits t))
    | none => return t
  | .bytes _ => .error (.kind .bytesForText)
  | v => .error (.kind (.notText v.longKindName))

/-- A rule from its definition. -/
def make (d : Definition) : Except Error Rule := do
  if d.id.isEmpty then throw (.defect .noIdentifier)
  let suggestions ← (itemsOf d.suggestions).mapError .kind
  if d.elements.isEmpty then throw (.defect (.noElements d.id))
  if d.elements.all (·.isOptional) then throw (.defect (.onlyOptional d.id))
  let count := d.elements.length
  checkNumber d.id "suggestion_source" count d.source
  checkNumber d.id "sample_source" count d.sampleSource
  let sample ← match d.sample with
    | .null => pure none
    | .text s => pure (some s.toList)
    | v => throw (.ofDefect (.sampleNotText d.id v))
  if d.source.isNull && d.conversion ≠ .keep then
    throw (.defect (.conversionWithoutSource d.id))
  let message ← checkTemplate d.id count d.message
  let suggestions ← suggestions.mapM (checkTemplate d.id count)
  return { d with message, sample, suggestions }

/-! ### Matching -/

/-- The tokens that an element took: from one position up to another. -/
structure Span where
  /-- The position of the first token. -/
  first : Int
  /-- The position after the last token. -/
  stop : Int
  deriving DecidableEq, Repr

/-- What became of a match that was tried at a position. -/
structure Attempt where
  /-- The position. -/
  start : Int
  /-- A span for each element, or none if there is no match. -/
  spans : Option (List Span)
  deriving DecidableEq, Repr

/-- The position after the last token of a match, or the start. -/
def Attempt.stop (a : Attempt) : Int :=
  ((a.spans.bind (·.getLast?)).map (·.stop)).getD a.start

end Rule

/-- Whether a failure of a test means that the token is not accepted. -/
def isTestFailure : Error → Bool
  | .kind _ | .lacks .. | .value _ => true
  | _ => false

/-- A test whose failures count as an answer in the negative. -/
def tolerant (answer : Except Error Bool) : Except Error Bool :=
  match answer with
  | .ok b => .ok b
  | .error e => if isTestFailure e then .ok false else .error e

/-- The length of the run of tokens from a position on that is accepted and allowed. `count` tokens
have been taken and `left` are left. -/
def runLength (accepts : Int → Except Error Bool) (allows : Nat → Bool) (position : Int)
    (count : Nat) : Nat → Except Error Nat
  | 0 => .ok count
  | left + 1 =>
    if allows count then do
      if ← accepts position then runLength accepts allows (position + 1) (count + 1) left
      else return count
    else .ok count

/-- The spans of elements from a position on, or none if an element is not satisfied. -/
def spansFrom (accepts : Element → Int → Except Error Bool) (size : Nat) :
    List Element → Int → Except Error (Option (List Rule.Span))
  | [], _ => .ok (some [])
  | e :: rest, position => do
    let n ← runLength (accepts e) e.allowsMore position 0 (size - position).toNat
    if e.isEnough n then
      return (← spansFrom accepts size rest (position + n)).map (⟨position, position + n⟩ :: ·)
    else return none

namespace Rule

/-- Whether an element accepts the token at a position. -/
def accepts (r : Rule) (tokens : List Token) (e : Element) (position : Int) : Except Error Bool :=
  tolerant (e.accepts tokens position r.caseSensitive)

/-- Tries to match all elements from a position on. -/
def attempt (r : Rule) (tokens : List Token) (start : Int) : Except Error Attempt := do
  let spans ← spansFrom (r.accepts tokens) tokens.length r.elements start
  let found : Attempt := ⟨start, spans⟩
  return if found.stop = start then ⟨start, none⟩ else found

/-- The matches from a position on; `left` positions are left to try. -/
def attemptsFrom (r : Rule) (tokens : List Token) (start : Int) :
    Nat → Except Error (List Attempt)
  | 0 => .ok []
  | left + 1 =>
    if start < tokens.length then do
      let found ← r.attempt tokens start
      if found.spans.isSome then return found :: (← r.attemptsFrom tokens found.stop left)
      else r.attemptsFrom tokens (start + 1) left
    else .ok []

/-- All matches, from left to right; none overlap. -/
def attempts (r : Rule) (tokens : List Token) : Except Error (List Attempt) :=
  r.attemptsFrom tokens 0 tokens.length

/-- The spans of all matches. -/
def spans (r : Rule) (tokens : List Token) : Except Error (List (List Span)) := do
  return (← r.attempts tokens).filterMap (·.spans)

/-! ### Reporting -/

/-- The matched text of the element with a number that is given. -/
def textAt (texts : List Text) (number : Value) : Except Error Text :=
  match number.integer? with
  | some n => itemAt .items texts (n - 1)
  | none => .error (.kind (.notPosition number.kindName))

/-- The text whose casing is copied: that of the sample's element unless it is empty, else the sample,
else the source. -/
def sampleText (r : Rule) (texts : List Text) : Except Error Text := do
  let matched ← if r.sampleSource.isNull then pure [] else textAt texts r.sampleSource
  if !matched.isEmpty then return matched
  match r.sample with
  | some s => return s
  | none => textAt texts r.source

/-- The text of the source in its new casing. -/
def converted (r : Rule) (texts : List Text) : Except Error (Option Text) :=
  if r.source.isNull then .ok none
  else do
    let source ← textAt texts r.source
    let sample ← r.sampleText texts
    return some (r.locale.convert source r.conversion (some sample))

/-- The matched text that a reference stands for. -/
def referredText (texts : List Text) (n : Nat) : Except Error Text := itemAt .items texts ((n : Int) - 1)

/-- A template with the matched texts put in; `source` takes the place of the source's text. -/
def expandWith (r : Rule) (texts : List Text) (source : Option Text) (t : Text) : Except Error Text :=
  expand (fun n => match source with
    | some s => if r.source.sameKey (.int n) then .ok s else referredText texts n
    | none => referredText texts n) t

/-- The suggestions for matched texts: the templates, or else the converted source, without blanks around
them; empty ones and repetitions are left out. -/
def suggestionsFor (r : Rule) (texts : List Text) : Except Error (List Text) := do
  let source ← r.converted texts
  let made ← if r.suggestions.isEmpty then pure source.toList
    else r.suggestions.mapM (r.expandWith texts source)
  return distinct ((made.map Text.trim).filter (!·.isEmpty))

/-- What a match reports. -/
def report (r : Rule) (tokens : List Token) (spans : List Span) : Except Error Finding := do
  let texts ← spans.mapM fun s => surfaceText (stretch tokens s.first s.stop)
  let first := (spans.head?.map (·.first)).getD 0
  let stop := (spans.getLast?.map (·.stop)).getD 0
  let message ← r.expandWith texts none r.message
  let start := (← Element.tokenAt tokens first).start
  let end_ ← (← Element.tokenAt tokens (stop - 1)).stop
  let suggestions ← r.suggestionsFor texts
  return {
    rule := r.id, message, start, stop := end_, suggestions, shortMessage := r.shortMessage,
    firstToken := first, endToken := stop }

/-- All findings in a sequence of tokens. -/
def findings (r : Rule) (tokens : List Token) : Except Error (List Finding) := do
  (← r.spans tokens).mapM (r.report tokens)

/-- The matcher of the rule as reports name it. -/
def matcherShown (r : Rule) : String := "PatternMatcher(" ++ quoteString r.id ++ ")"

end Rule

end Copyedit.Pattern
