import Copyedit.Rules.Spelling

/-!
# Settings

What a checker can be told: how far suggestions are looked for and how many are reported, what happens
when a rule fails, and which rules are left out. Settings are validated once, and carry what was
validated.
-/

namespace Copyedit

/-- What happens when a rule fails. -/
inductive OnFailure where
  /-- The other rules go on, and there is a warning. -/
  | warn
  /-- The other rules go on. -/
  | skip
  /-- The run ends with the error of the rule. -/
  | raise
  deriving DecidableEq, Repr

namespace OnFailure

/-- The name in settings. -/
def name : OnFailure → String
  | warn => "warn"
  | skip => "skip"
  | raise => "raise"

/-- The way to treat failures that has a name. -/
def ofValue (v : Value) : Except Error OnFailure :=
  match [warn, skip, raise].find? fun f => v.sameKey (.text f.name) with
  | some f => .ok f
  | none => .error (.ofDefect (.unknownFailureMode v))

end OnFailure

/-- Settings as they are given. -/
structure SettingsDraft where
  /-- The greatest number of suggestions for a word; 0 for all of them. -/
  maxSuggestions : Int := 10
  /-- The distances at which suggestions are looked for, in order, until there are some. -/
  distances : List Int := [1, 2, 3]
  /-- The least length of words for which more than the first distance is tried. -/
  escalationLength : Int := 5
  /-- How many tokens on either side of a word a language model sees. -/
  contextLength : Int := 2
  /-- Whether sentences may be checked at the same time; the findings are the same. -/
  isParallel : Bool := false
  /-- How many sentences may be checked at the same time. -/
  workers : Int := 4
  /-- What happens when a rule fails. -/
  onFailure : Value := .text "warn"
  /-- The identifiers of the rules that are left out. -/
  disabled : List String := []

/-- Valid settings. -/
structure Settings where
  /-- The greatest number of suggestions for a word; 0 for all of them. -/
  maxSuggestions : Int
  /-- The distances at which suggestions are looked for, in order, until there are some. -/
  distances : List Int
  /-- The least length of words for which more than the first distance is tried. -/
  escalationLength : Int
  /-- How many tokens on either side of a word a language model sees. -/
  contextLength : Int
  /-- Whether sentences may be checked at the same time; the findings are the same. -/
  isParallel : Bool
  /-- How many sentences may be checked at the same time. -/
  workers : Int
  /-- What happens when a rule fails. -/
  onFailure : OnFailure
  /-- The identifiers of the rules that are left out. -/
  disabled : List String
  /-- There are not fewer than no suggestions. -/
  maxSuggestions_nonneg : 0 ≤ maxSuggestions := by decide
  /-- There is a first distance. -/
  distances_ne_nil : distances ≠ [] := by decide
  /-- The distances are positive and ascend. -/
  distances_ascend : isAscending distances = true := by decide
  /-- The length is positive. -/
  escalationLength_pos : 1 ≤ escalationLength := by decide
  /-- There are not fewer than no tokens. -/
  contextLength_nonneg : 0 ≤ contextLength := by decide
  /-- Some sentence can be checked. -/
  workers_pos : 1 ≤ workers := by decide

namespace Settings

/-- Validates settings. The first fault is reported. -/
def make (d : SettingsDraft := {}) : Except Error Settings :=
  let tooSmall (name : String) (least got : Int) : Except Error Settings :=
    .error (.defect (.settingTooSmall name least got))
  if hm : d.maxSuggestions < 0 then tooSmall "max_spelling_suggestions" 0 d.maxSuggestions
  else if hn : d.distances = [] then .error (.defect .noDistances)
  else if d.distances.any (· ≤ 0) then .error (.defect (.distancesNotPositive d.distances))
  else if ha : isAscending d.distances = true then
    if he : d.escalationLength < 1 then tooSmall "min_length_for_escalation" 1 d.escalationLength
    else if hc : d.contextLength < 0 then tooSmall "context_length" 0 d.contextLength
    else if hw : d.workers < 1 then tooSmall "max_workers" 1 d.workers
    else do
      let onFailure ← OnFailure.ofValue d.onFailure
      return {
        d with
        onFailure
        maxSuggestions_nonneg := by omega
        distances_ne_nil := hn
        distances_ascend := ha
        escalationLength_pos := by omega
        contextLength_nonneg := by omega
        workers_pos := by omega }
  else .error (.defect (.distancesNotAscending d.distances))

/-- The settings unless others are given. -/
def standard : Settings where
  maxSuggestions := 10
  distances := [1, 2, 3]
  escalationLength := 5
  contextLength := 2
  isParallel := false
  workers := 4
  onFailure := .warn
  disabled := []

/-- Failures end the run, and only close corrections are suggested. -/
def strict : Settings := { standard with
  onFailure := .raise
  distances := [1]
  distances_ne_nil := by decide
  distances_ascend := by decide }

/-- Failures are passed over, and corrections are looked for further away. -/
def lenient : Settings := { standard with
  onFailure := .skip
  escalationLength := 4
  escalationLength_pos := by decide }

end Settings

end Copyedit
