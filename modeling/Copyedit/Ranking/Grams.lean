import Copyedit.Ranking.Model
import Copyedit.Spelling.FrequencyList
import Copyedit.Text.LetterCase

/-!
# Counted grams

A gram is a sequence of consecutive words in lower case. From the counts of grams up to some length comes
the likelihood of a word after its predecessors: the share of the longest counted gram in the count of
its context, and a fixed factor for each word by which the gram had to be shortened. A single word gets
the share of its count, one being added to each count so that no word is impossible. The likelihood is
an exact fraction times a power of the factor (`Share`); the score of a sequence is the sum of the
logarithms of the rounded likelihoods.
-/

namespace Copyedit.Ranking

/-- A sequence of words. -/
abbrev Gram := List Text

/-- The grams of length `n`, in order. -/
def gramsOf (n : Nat) (words : List Text) : List Gram :=
  (List.range (words.length + 1 - n)).map fun i => (words.drop i).take n

/-- Adds to the count of a gram. -/
def addCount (counts : List (Gram × Int)) (gram : Gram) (n : Int) : List (Gram × Int) :=
  putKey counts gram ((counts.lookup gram).getD 0 + n)

/-- Counts of grams. -/
structure GramCounts where
  /-- The counts, each gram once. -/
  counts : List (Gram × Int)
  /-- The length of the longest grams that are looked up. -/
  order : Int
  /-- Single words are looked up at least. -/
  order_pos : 1 ≤ order

namespace GramCounts

/-- The counts of grams; the order must be positive. -/
def ofCounts (counts : List (Gram × Int)) (order : Int := 3) : Except Error GramCounts :=
  if h : 1 ≤ order then .ok ⟨counts, order, h⟩
  else .error (.defect (.argument "order" ">= 1" order))

/-- The grams of a sentence up to a length: the shorter ones first. -/
def gramsUpTo (order : Int) (sentence : List Text) : List Gram :=
  let words := sentence.map Text.lower
  (List.range' 1 (min order.toNat words.length)).flatMap fun n => gramsOf n words

/-- Counts all grams of sentences up to a length. -/
def ofSentences (sentences : List (List Text)) (order : Int := 3) : Except Error GramCounts :=
  ofCounts ((sentences.flatMap (gramsUpTo order)).foldl (fun cs g => addCount cs g 1) []) order

/-- The words of a frequency list with their counts. -/
def ofFrequencies (d : Spelling.FrequencyList) : GramCounts where
  counts := d.counts.foldl (fun cs e => addCount cs [e.1.lower] e.2) []
  order := 1
  order_pos := by decide

/-- The count of a gram. -/
def countOf (g : GramCounts) (gram : Gram) : Int := (g.counts.lookup gram).getD 0

/-- The count of a gram in lower case. -/
def count (g : GramCounts) (gram : Gram) : Int := g.countOf (gram.map Text.lower)

/-- The counted single words. -/
def singles (g : GramCounts) : List (Gram × Int) := g.counts.filter (·.1.length == 1)

/-- The sum of the counts of single words. -/
def total (g : GramCounts) : Int := (g.singles.map (·.2)).foldr (· + ·) 0

/-- The number of single words. -/
def vocabulary (g : GramCounts) : Nat := g.singles.length

/-- The model as reports show it. -/
def shown (g : GramCounts) : String :=
  s!"NGramLanguageModel(order={g.order}, vocabulary={g.vocabulary})"

/-! ### Likelihood -/

/-- A likelihood: a fraction times the factor of shortening, once for each word left out. -/
structure Share where
  /-- How many words were left out. -/
  shortened : Nat
  /-- The numerator. -/
  num : Int
  /-- The denominator. -/
  den : Int
  /-- Whether the fraction is the share of a single word. -/
  single : Bool
  deriving DecidableEq, Repr

/-- The likelihood of the last word of a gram after the others. -/
def share (g : GramCounts) (shortened : Nat) : Gram → Share
  | [] => ⟨shortened, g.countOf [] + 1, g.total + g.vocabulary + 1, true⟩
  | [w] => ⟨shortened, g.countOf [w] + 1, g.total + g.vocabulary + 1, true⟩
  | w :: v :: rest =>
    let count := g.countOf (w :: v :: rest)
    let context := g.countOf (w :: v :: rest).dropLast
    if 0 < count ∧ 0 < context then ⟨shortened, count, context, false⟩
    else g.share (shortened + 1) (v :: rest)

/-- The factor for each word that is left out. -/
def backoffFactor : Float := 0.4

/-- The factor for `n` words, multiplied up one by one. -/
def penalty (n : Nat) : Float := (List.range n).foldl (fun p _ => p * backoffFactor) 1.0

/-- A finite number; an infinite one is past the range. -/
def finite (o : Overflow) (x : Float) : Except Error Float := if x.isInf then .error (.overflow o) else .ok x

/-- The likelihood rounded to a floating-point number. -/
def Share.toFloat (s : Share) : Except Error Float := do
  if s.single then
    if s.den = 0 then throw .divisionByZero
    return penalty s.shortened * (← finite .quotient (Decimal.nearestQuotient s.num s.den))
  else
    return penalty s.shortened * (← finite .integer (Decimal.nearestInt s.num)) /
      (← finite .integer (Decimal.nearestInt s.den))

/-- The natural logarithm of a positive number. -/
def logarithm (x : Float) : Except Error Float :=
  if 0 < x then .ok x.log else .error (.value .logarithm)

/-- The grams that end at each word, from the first word on. -/
def endingGrams (g : GramCounts) (words : List Text) : List Gram :=
  (List.range words.length).map fun i =>
    let first := i + 1 - min g.order.toNat (i + 1)
    (words.drop first).take (i + 1 - first)

/-- The sum of the logarithms of the likelihoods of all words after their predecessors. -/
def score (g : GramCounts) (words : List Text) : Except Error Float :=
  (g.endingGrams (words.map Text.lower)).foldlM
    (fun total gram => do return total + (← logarithm (← (g.share 0 gram).toFloat))) 0.0

/-- Tokens without a text have no words. -/
def wordsOf (tokens : List (Option Text)) : Except Error (List Text) :=
  tokens.mapM fun
    | some t => .ok t
    | none => .error (.lacks "NoneType" "lower")

/-- The counts as a language model. -/
def model (g : GramCounts) : Model Float where
  name := "ngram"
  shown := g.shown
  score tokens := do g.score (← wordsOf tokens)

end GramCounts

end Copyedit.Ranking
