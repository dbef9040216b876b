import Copyedit.Ranking.Model
import Copyedit.Spelling.Candidate

/-!
# Ranking suggestions

A ranker puts each suggestion in the place of the misspelled token, looks at a window of tokens around
it, and asks a language model how likely that is. Without a model it leaves everything as it is. Scores
may be of any type with an order.
-/

namespace Copyedit.Ranking

open Spelling (Candidate)

/-- A ranker of suggestions. -/
structure Ranker (S : Type) where
  /-- The model that scores, if there is one. -/
  model : Option (Model S)
  /-- How many tokens on either side are looked at. -/
  contextLength : Nat

namespace Ranker

variable {S : Type} [LT S] [DecidableLT S]

/-- A ranker; the number of tokens must not be negative. -/
def make (model : Option (Model S) := none) (contextLength : Int := 2) :
    Except Error (Ranker S) :=
  if contextLength < 0 then .error (.defect (.argument "context_length" ">= 0" contextLength))
  else .ok ⟨model, contextLength.toNat⟩

/-- Whether the ranker leaves everything as it is. -/
def isPassThrough (r : Ranker S) : Bool := r.model.isNone

/-- The ranker as reports show it. -/
def shown (r : Ranker S) : String :=
  "SuggestionRanker(" ++ (match r.model with | none => "None" | some m => m.shown) ++
    s!", context_length={r.contextLength})"

/-- The suggestion with the tokens around it; one that has several words stands for as many tokens. -/
def window (r : Ranker S) (suggestion : Text) (context : List (Option Text)) (position : Int) :
    List (Option Text) :=
  let left := stretch context (max 0 (position - r.contextLength)) (max 0 position)
  let right := stretch context (position + 1) (position + 1 + r.contextLength)
  left ++ suggestion.words.map some ++ right

/-- The score of a suggestion in its context. -/
def score (r : Ranker S) (suggestion : Text) (context : List (Option Text)) (position : Int) :
    Except Error S :=
  match r.model with
  | none => .error (.defect .noModel)
  | some m => m.score (r.window suggestion context position)

/-- Suggestions from the likeliest on; equally likely ones keep their order. -/
def rank (r : Ranker S) (suggestions : List Text) (context : List (Option Text)) (position : Int) :
    Except Error (List Text) := do
  if r.isPassThrough then return suggestions
  let scored ← suggestions.mapM fun s => do return (← r.score s context position, s)
  return (scored.mergeSort fun a b => !decide (a.1 < b.1)).map (·.2)

/-- Candidates with their scores, in order. -/
def rankCandidates (r : Ranker S) (candidates : List (Candidate S)) (context : List (Option Text))
    (position : Int) : Except Error (List (Candidate S)) := do
  if r.isPassThrough then return candidates
  let scored ← candidates.mapM fun c => do
    return { c with score := some (← r.score c.correction context position) }
  return Candidate.ordered scored

end Ranker

end Copyedit.Ranking
