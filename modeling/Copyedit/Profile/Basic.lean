import Copyedit.Ranking.Grams
import Copyedit.Rules.Basic
import Copyedit.Sentence.Split
import Copyedit.Tagging

/-!
# Profiles

A profile holds all that differs from language to language: how a text is split, tokenized and tagged, the
rules, the dictionaries and the language model. Rules and dictionaries are added to those of a profile; of
anything else there is one.
-/

namespace Copyedit

/-- What makes sentences of a text, with their positions. -/
abbrev Splitter := Text → List (Nat × Text)

/-- What makes tokens of a sentence at a position. -/
abbrev Tokenizer := Text → Int → List Token

/-- What adds readings to the tokens of a sentence. -/
abbrev Tagger := List Token → List Token

/-- A choice among the readings of the tokens of a sentence; it may leave out tokens. -/
abbrev Disambiguator := List Token → List Token

/-- What can be added to a profile. -/
structure Resources where
  /-- Rules. -/
  rules : List Rule := []
  /-- Dictionaries. -/
  dictionaries : List Spelling.Dictionary := []
  /-- A language model. -/
  model : Option (Ranking.Model Float) := none
  /-- A tagger. -/
  tagger : Option Tagger := none
  /-- A choice among readings. -/
  disambiguator : Option Disambiguator := none

/-- How texts in one language are checked. -/
structure Profile extends Resources where
  /-- The code of the language. -/
  code : String
  /-- The name of the language. -/
  name : String
  /-- The name of the locale that decides how case is converted. -/
  localeName : String
  /-- Splits a text into sentences. -/
  split : Splitter := Text.sentences
  /-- Splits a sentence into tokens. -/
  tokenize : Tokenizer := @Text.tokens

namespace Profile

/-- The locale. A profile whose locale has no name can check everything but spelling. -/
def locale (p : Profile) : Except Error Locale := Locale.ofName p.localeName

/-- Whether spelling is checked. -/
def checksSpelling (p : Profile) : Bool := !p.dictionaries.isEmpty

/-- The profile with more rules and dictionaries, and other resources where they are given. -/
def add (p : Profile) (r : Resources) : Profile := { p with
  rules := p.rules ++ r.rules
  dictionaries := p.dictionaries ++ r.dictionaries
  model := r.model <|> p.model
  tagger := r.tagger <|> p.tagger
  disambiguator := r.disambiguator <|> p.disambiguator }

/-- The profile with the frequency list that is shipped for its language, and with a language model of
its words unless there is a model or none is wanted. -/
def addShipped (p : Profile) (shipped : Spelling.Shipped) (wantsModel : Bool := true) :
    Except Error Profile := do
  let words ← Spelling.FrequencyList.forLanguage shipped p.code.toList
  return p.add {
    dictionaries := [⟨p.dictionaries.length, .frequencies words⟩]
    model := if wantsModel && p.model.isNone then some (Ranking.GramCounts.ofFrequencies words).model
      else none }

end Profile

end Copyedit
