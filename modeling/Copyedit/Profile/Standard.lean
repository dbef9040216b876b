import Copyedit.Profile.Basic

/-!
# Standard profiles

The profiles that come with the library: English, Dutch, German and Turkish, and one for all other
languages. They have rules that need no resources.
-/

namespace Copyedit.Profile

/-- The rules for any language with sentences and words. -/
def generalRules : List Rule :=
  [.repetition (.make []), .spacing, .longSentence .ofSentence]

/-- The locale of English. -/
def americanEnglish : Locale := ⟨"en_US", by decide⟩

/-- The English rule on the article before a vowel sound, which the spelling mostly shows. -/
def articleRule : Except Error Pattern.Rule := do
  let article ← Pattern.Element.make { token := some ['a'] }
  let consonantSound ← Pattern.Exception.make {
    token := some "(uni|use|usu|eu|one|once)\\w*".toList, isExpression := .bool true }
  let vowel ← Pattern.Element.make
    { token := some "[aeiou]\\w*".toList, isExpression := .bool true } (.int 1) (.int 1)
    [consonantSound]
  Pattern.Rule.make {
    id := "EN_A_VS_AN"
    elements := [article, vowel]
    message := .text
      "Use 'an' instead of '\\1' if the following word starts with a vowel sound."
    shortMessage := .text "Wrong article"
    source := .int 1
    suggestions := .list [.text "\\1n"]
    conversion := .preserve
    locale := americanEnglish }

/-- The English rules. -/
def englishRules : List Rule :=
  [.repetition (.make ["had".toList, "that".toList]), .spacing, .longSentence .ofSentence] ++
    (articleRule.toOption.map Rule.pattern).toList

/-- English. -/
def english : Profile where
  code := "en"
  name := "English"
  localeName := "en_US"
  rules := englishRules

/-- Dutch. -/
def dutch : Profile where
  code := "nl"
  name := "Dutch"
  localeName := "nl"
  rules := generalRules

/-- German. -/
def german : Profile where
  code := "de"
  name := "German"
  localeName := "de_DE"
  rules := generalRules

/-- Turkish. -/
def turkish : Profile where
  code := "tr"
  name := "Turkish"
  localeName := "tr_TR"
  rules := generalRules

/-- Any other language. -/
def generic : Profile where
  code := "xx"
  name := "Generic"
  localeName := "xx"
  rules := [.repetition (.make []), .spacing]

/-- The profiles by the code of their language. -/
def standard : List Profile := [english, dutch, german, turkish, generic]

/-- The profile for the code of a language or of a locale. -/
def ofLanguage (code : String) : Profile :=
  let language := Locale.languageOf code.toList
  (standard.find? fun p => p.code.toList = language).getD generic

end Copyedit.Profile
