import Copyedit.Profile.Standard
import Copyedit.Settings

/-!
# The checker

A checker splits a text into sentences, tokenizes and tags them, and runs the rules of its profile. The
rules on sentences run first, sentence by sentence and in order; then those on the text as a whole, whose
findings are filed under the sentence in which they start. A rule that fails on a sentence leaves the
others alone, unless the settings say that failures end the run.
-/

namespace Copyedit

/-! ### Reports -/

/-- A rule that failed. -/
structure RuleFailure where
  /-- The identifier of the rule. -/
  rule : String
  /-- The position of the sentence, or 0 for a rule on the text. -/
  position : Int
  /-- What went wrong. -/
  error : Error

/-- The warning about a rule that failed. -/
def RuleFailure.message (f : RuleFailure) : String :=
  s!"Rule {f.rule} failed on text at {f.position}: {f.error.message}"

/-- What rules yielded so far: findings, by any grouping, and failures. -/
structure Tally (α : Type) where
  /-- The findings. -/
  findings : α
  /-- The failures. -/
  failures : List RuleFailure := []

/-- Takes what a rule yields into a tally; a failure ends the run if it has to. -/
def Tally.take {α : Type} (t : Tally α) (onFailure : OnFailure) (put : α → List Finding → α)
    (rule : Rule) (position : Int) : Except Error (List Finding) → Except Error (Tally α)
  | .ok found => .ok { t with findings := put t.findings found }
  | .error e =>
    if onFailure = .raise then .error e
    else .ok { t with failures := t.failures ++ [⟨rule.id, position, e⟩] }

/-- What a text was found to hold. -/
structure Report where
  /-- The number of sentences. -/
  sentenceCount : Nat
  /-- The findings, sentence by sentence. -/
  findings : List Finding
  /-- The rules that failed. -/
  failures : List RuleFailure

/-! ### Checkers -/

/-- A profile with settings, ready to run. -/
structure Checker where
  /-- How texts are analyzed. -/
  profile : Profile
  /-- The settings. -/
  settings : Settings
  /-- The rules that are not left out, that on spelling last. -/
  rules : List Rule

namespace Checker

/-- The rule on spelling for a profile. -/
def spellingRule (p : Profile) (s : Settings) : Except Error (SpellingRule Float) := do
  let locale ← p.locale
  let ranker ← Ranking.Ranker.make p.model s.contextLength
  SpellingRule.make p.dictionaries ranker {
    distances := s.distances
    escalationLength := s.escalationLength
    maxSuggestions := s.maxSuggestions
    locale }

/-- All rules for a profile. -/
def allRules (p : Profile) (s : Settings) : Except Error (List Rule) := do
  if p.checksSpelling then return p.rules ++ [.spelling (← spellingRule p s)]
  else return p.rules

/-- A checker for a profile. -/
def make (p : Profile) (s : Settings := .standard) : Except Error Checker := do
  return ⟨p, s, (← allRules p s).filter fun r => !s.disabled.contains r.id⟩

/-- The rules on sentences. -/
def sentenceRules (c : Checker) : List Rule := c.rules.filter (!·.isTextLevel)

/-- The rules on texts. -/
def textRules (c : Checker) : List Rule := c.rules.filter (·.isTextLevel)

/-- The checker as reports name it. -/
def shown (c : Checker) : String :=
  "Checker(" ++ quoteString c.profile.code ++ s!", rules={c.rules.length})"

/-! ### Analysis -/

/-- A sentence at a position, with the tokens that the profile makes of it. -/
def analyzeSentence (c : Checker) (text : Text) (position : Int := 0) : Sentence :=
  let tokens := c.profile.tokenize text position
  let tagged := (c.profile.tagger.map fun g => g tokens).getD tokens
  let chosen := (c.profile.disambiguator.map fun g => g tagged).getD tagged
  { text, tokens := chosen, start := position }

/-- The sentences of a text; there has to be one. -/
def analyze (c : Checker) (text : Option Text) : Except Error (List Sentence) :=
  match text with
  | none => .error (.value .noText)
  | some t => .ok ((c.profile.split t).map fun (position, s) => c.analyzeSentence s position)

/-! ### Runs -/

/-- What the rules on sentences yield on one. -/
def checkSentence (c : Checker) (s : Sentence) : Except Error (Tally (List Finding)) :=
  c.sentenceRules.foldlM
    (fun t r => t.take c.settings.onFailure (· ++ ·) r s.start (r.findings s)) ⟨[], []⟩

/-- Files a finding under the sentence in which it starts, after those that are there. One that starts
before all sentences is filed under the first. -/
def file (starts : Array Int) (filed : List (List Finding)) (f : Finding) : List (List Finding) :=
  filed.modify (placeOf starts f.start - 1) (· ++ [f])

/-- Adds what the rules on texts yield to what those on sentences did. -/
def checkText (c : Checker) (sentences : List Sentence) (text : Option Text)
    (t : Tally (List (List Finding))) : Except Error (Tally (List (List Finding))) :=
  let starts := (sentences.map (·.start)).toArray
  c.textRules.foldlM
    (fun t r => t.take c.settings.onFailure (fun filed found => found.foldl (file starts) filed) r 0
      (r.findingsIn sentences text)) t

/-- Runs all rules on the sentences of a text; without sentences none. -/
def run (c : Checker) (sentences : List Sentence) (text : Option Text := none) :
    Except Error Report := do
  let tallies ← sentences.mapM c.checkSentence
  let t : Tally (List (List Finding)) :=
    ⟨tallies.map (·.findings), tallies.flatMap (·.failures)⟩
  let t ← if sentences.isEmpty then pure t else c.checkText sentences text t
  return ⟨sentences.length, t.findings.flatten, t.failures⟩

/-- Checks a text. -/
def check (c : Checker) (text : Option Text) : Except Error Report := do
  c.run (← c.analyze text) text

/-- The warnings about a report. -/
def warnings (c : Checker) (r : Report) : List String :=
  if c.settings.onFailure = .warn then r.failures.map (·.message) else []

/-! ### Batches -/

/-- What became of several texts. -/
structure Batch where
  /-- The texts by their index, each with its report or with what went wrong. -/
  entries : List (Nat × Except Error Report) := []
  /-- The error that ended the batch. -/
  stopped : Option Error := none

/-- The batch with an entry in front. -/
def Batch.push (b : Batch) (index : Nat) (r : Except Error Report) : Batch :=
  { b with entries := (index, r) :: b.entries }

/-- Checks texts, of which the first has an index. A text that cannot be checked ends the batch, is
passed over or is an entry with the error, as the settings say of rules that fail. -/
def checkBatchFrom (c : Checker) (index : Nat) : List (Option Text) → Batch
  | [] => {}
  | t :: rest =>
    match c.check t, c.settings.onFailure with
    | .error e, .raise => { stopped := some e }
    | .error _, .skip => c.checkBatchFrom (index + 1) rest
    | r, _ => (c.checkBatchFrom (index + 1) rest).push index r

/-- Checks texts in order. -/
def checkBatch (c : Checker) (texts : List (Option Text)) : Batch := c.checkBatchFrom 0 texts

/-- The warnings about an entry of a batch. -/
def entryWarnings (c : Checker) (index : Nat) : Except Error Report → List String
  | .ok r => c.warnings r
  | .error e => [s!"Text {index} could not be checked: {e.message}"]

/-- The warnings about a batch. -/
def batchWarnings (c : Checker) (b : Batch) : List String :=
  b.entries.flatMap fun (index, r) => c.entryWarnings index r

end Checker

end Copyedit
