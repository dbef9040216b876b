import Copyedit.Decimal.Binary
import Copyedit.Error
import Copyedit.Sequence
import Copyedit.Text.Basic

/-!
# Language models

A language model scores a sequence of tokens: the more likely the sequence, the higher its score. The
scores may be of any type with an order. `Model.additive` is the simplest model: each token has a weight
of its own, and the weights are added up.
-/

namespace Copyedit.Ranking

/-- A language model with scores in `S`. -/
structure Model (S : Type) where
  /-- The name in reports. -/
  name : String
  /-- The model as reports show it. -/
  shown : String
  /-- The score of a sequence of tokens, some of which may be without a text. -/
  score : List (Option Text) → Except Error S

/-- The weight of a token: an integer is added exactly, a number with a fraction is rounded. -/
inductive Weight where
  /-- An integer. -/
  | whole (n : Int)
  /-- A number with a fraction. -/
  | part (x : Float)

namespace Weight

/-- The weight as a floating-point number. -/
def toFloat : Weight → Float
  | whole n => Decimal.nearestInt n
  | part x => x

/-- The sum of two weights. -/
def add : Weight → Weight → Weight
  | whole m, whole n => whole (m + n)
  | a, b => part (a.toFloat + b.toFloat)

end Weight

/-- A model that adds up the weights of the tokens; a token that is not listed has none. -/
def Model.additive (weights : List (Text × Weight)) : Model Float where
  name := "table"
  shown := "table"
  score tokens :=
    let table := tableOf weights
    let weight (t : Option Text) := (t.bind fun w => table.lookup w).getD (.whole 0)
    .ok ((tokens.map weight).foldl Weight.add (.whole 0)).toFloat

end Copyedit.Ranking
