import Copyedit.Pattern.Rule

/-!
# Pattern rules in reports

A pattern rule is shown with all its parts, each setting under its name.
-/

namespace Copyedit.Pattern

/-- A text that may be missing, as reports show it. -/
def showOption (t : Option Text) : String :=
  (t.map fun t => String.ofList t.quoted).getD Value.null.quoted

/-- Items in parentheses; a single one is followed by a comma. -/
def showItems : List String → String
  | [item] => "(" ++ item ++ ",)"
  | items => "(" ++ commaJoin items ++ ")"

/-- Settings under their names. -/
def showSettings (kind : String) (settings : List (String × String)) : String :=
  kind ++ "(" ++ commaJoin (settings.map fun s => s.1 ++ "=" ++ s.2) ++ ")"

/-- The settings of a demand. -/
def Demand.settings (d : Demand) : List (String × String) :=
  [("token", showOption d.token), ("regexp", d.isExpression.quoted), ("pos_tag", d.tag.quoted),
    ("lemma", d.base.quoted), ("negate", d.negated.quoted),
    ("case_sensitive", d.caseSensitive.quoted)]

/-- The exception with its settings. -/
def Exception.shown (e : Exception) : String :=
  showSettings "ElementException"
    (e.constraint.demand.settings ++ [("scope", quoteString e.scope.name)])

/-- The element with its settings. -/
def Element.shown (e : Element) : String :=
  showSettings "MatchElement" (e.constraint.demand.settings ++
    [("min_occurrences", e.least.quoted), ("max_occurrences", e.most.quoted),
      ("exceptions", "[" ++ commaJoin (e.exceptions.map (·.shown)) ++ "]")])

/-- The conversion by its name in capitals and its name. -/
def showConversion (c : Conversion) : String :=
  "<CaseConversion." ++ String.ofList (Text.upper c.name.toList) ++ ": " ++ quoteString c.name ++ ">"

/-- The rule with its settings and elements. -/
def Rule.shown (r : Rule) : String :=
  showSettings "PatternRule" [("id", quoteString r.id),
    ("elements", showItems (r.elements.map (·.shown))),
    ("message", String.ofList r.message.quoted), ("suggestion_source", r.source.quoted),
    ("case_conversion", showConversion r.conversion), ("sample", showOption r.sample),
    ("sample_source", r.sampleSource.quoted),
    ("suggestions", showItems (r.suggestions.map fun t => String.ofList t.quoted)),
    ("case_sensitive", r.caseSensitive.quoted), ("short_message", r.shortMessage.quoted),
    ("description", r.description.quoted)]

end Copyedit.Pattern
