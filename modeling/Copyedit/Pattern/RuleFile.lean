import Copyedit.Pattern.Rule
import Copyedit.TextFile
import Copyedit.Value.Show
import Copyedit.Yaml.Value

/-!
# Rule files

Pattern rules are defined in files: a list of mappings, or a mapping with such a list under `rules` and,
possibly, a locale. Each definition is checked; what is wrong is reported with the place in the file.
-/

namespace Copyedit.Pattern

/-! ### Keys -/

/-- The keys of a constraint. -/
def constraintKeys : List String :=
  ["token", "regexp", "pos", "pos_tag", "lemma", "negate", "case_sensitive"]

/-- The keys of an element, apart from its exceptions. -/
def elementKeys : List String := constraintKeys ++ ["min", "max"]

/-- The keys of an exception. -/
def exceptionKeys : List String := constraintKeys ++ ["scope"]

/-- The keys of a rule. -/
def ruleKeys : List String :=
  ["id", "message", "short_message", "description", "pattern", "suggestion_source",
    "case_conversion", "sample", "sample_source", "suggestions", "case_sensitive"]

/-- The entries of a mapping. -/
def entriesOf (place : Option Place) (v : Value) : Except Error (List (Value × Value)) :=
  match v.bare with
  | .map entries => .ok entries
  | v => .error (.defect (.notMapping place v.kindName))

/-- Checks that there are no other keys than the known ones. -/
def checkKeys (place : Place) (known : List String) (entries : List (Value × Value)) :
    Except Error Unit :=
  let unknown := (entries.map (·.1)).filter fun k => !known.any fun name => k.sameKey (.text name)
  if unknown.isEmpty then .ok ()
  else match Value.sorted unknown with
    | .ok keys => .error (.ofDefect (.unknownKeys place keys))
    | .error (a, b) => .error (.kind (.ofUnordered a b))

/-- A list that may be left out. -/
def listOrNone (v : Option Value) : Option (List Value) :=
  match v with
  | none => some []
  | some v => if v.truthy then (match v.bare with
    | .list items => some items
    | _ => none) else some []

/-! ### Constraints -/

/-- The tag that is demanded: what comes last under one of its two keys. -/
def tagOf (entries : List (Value × Value)) : Value :=
  ((entries.reverse.find? fun e => e.1.sameKey (.text "pos") || e.1.sameKey (.text "pos_tag")).map
    (·.2)).getD .null

/-- What the keys of a constraint demand. A token of any kind is taken as it is shown. -/
def demandOf (entries : List (Value × Value)) : Except Error Demand := do
  let token ← (Value.get? entries "token").mapM Value.text?
  return {
    token := token.map String.toList
    isExpression := (Value.get? entries "regexp").getD (.bool false)
    tag := tagOf entries
    base := (Value.get? entries "lemma").getD .null
    negated := (Value.get? entries "negate").getD (.bool false)
    caseSensitive := (Value.get? entries "case_sensitive").getD .null }

/-- An exception from its definition. -/
def Exception.ofValue (place : Place) (v : Value) : Except Error Exception := do
  let entries ← entriesOf (some place) v
  checkKeys place exceptionKeys entries
  Exception.make (← demandOf entries) ((Value.get? entries "scope").getD (.text "current"))

/-- An element from its definition. -/
def Element.ofValue (place : Place) (v : Value) : Except Error Element := do
  let entries ← entriesOf (some place) v
  match listOrNone (Value.get? entries "exceptions") with
  | none => throw (.defect (.exceptionsNotList place))
  | some exceptions =>
    let entries := Value.without entries "exceptions"
    checkKeys place elementKeys entries
    let demand ← demandOf entries
    let exceptions ← exceptions.zipIdx.mapM fun (e, i) =>
      Exception.ofValue { place with exception := some (i + 1) } e
    Element.make demand ((Value.get? entries "min").getD (.int 1))
      ((Value.get? entries "max").getD (.int 1)) exceptions

/-! ### Rules -/

/-- The conversion that a value names, whatever its case. -/
def conversionOf (place : Place) (v : Value) : Except Error Conversion := do
  match Conversion.ofName? (String.ofList (Text.lower (← v.text?).toList)) with
  | some c => return c
  | none => throw (.ofDefect (.unknownConversion place v (Conversion.all.map Conversion.name)))

/-- The suggestions of a rule: a list, or a single one. -/
def suggestionsOf (v : Option Value) : Value :=
  match v with
  | none => .list []
  | some v => if v.truthy then (match v with
    | .text s => .list [.text s]
    | v => v) else .list []

/-- A value of the wrong kind in a rule is reported with its place. -/
def atPlace {α : Type} (place : Place) (made : Except Error α) : Except Error α :=
  match made with
  | .error (.kind f) => .error (.defect (.wrongKind place f))
  | made => made

namespace Rule

/-- A rule from its definition. -/
def ofValue (v : Value) (locale : Option Locale := none) : Except Error Rule := do
  let entries ← entriesOf none v
  let get (key : String) : Option Value := Value.get? entries key
  let id ← (get "id").mapM Value.text?
  let place : Place := { rule := id.getD "<no id>" }
  checkKeys place ruleKeys entries
  match ["id", "message", "pattern"].find? fun key => (get key).isNone with
  | some key => throw (.defect (.missingKey place key))
  | none => pure ()
  let elements ← match (get "pattern").map Value.bare with
    | some (.list items) =>
      items.zipIdx.mapM (fun (e, i) => Element.ofValue { place with element := some (i + 1) } e)
    | _ => throw (.defect (.patternNotList place))
  let conversion ← match get "case_conversion" with
    | some c => conversionOf place c
    | none => pure .keep
  atPlace place (Rule.make {
    id := place.rule
    elements
    message := (get "message").getD .null
    source := (get "suggestion_source").getD .null
    conversion
    sample := (get "sample").getD .null
    sampleSource := (get "sample_source").getD .null
    suggestions := suggestionsOf (get "suggestions")
    caseSensitive := (get "case_sensitive").getD (.bool false)
    shortMessage := (get "short_message").getD (.text "")
    description := (get "description").getD (.text "")
    locale := locale.getD .english })

/-- The first identifier that an earlier rule has too. -/
def duplicate? (seen : List String) : List Rule → Option String
  | [] => none
  | r :: rest => if seen.contains r.id then some r.id else duplicate? (r.id :: seen) rest

/-- The locale that a file names, unless one is given. -/
def localeOf (entries : List (Value × Value)) (locale : Option Locale) :
    Except Error (Option Locale) :=
  match locale, Value.get? entries "locale" with
  | none, some v => if v.truthy then do return some (← Locale.ofName (← v.text?)) else .ok none
  | locale, _ => .ok locale

/-- Rules from definitions, in order; their identifiers are distinct. -/
def listOfValues (definitions : List Value) (locale : Option Locale) : Except Error (List Rule) := do
  let rules ← definitions.mapM fun d => ofValue d locale
  match duplicate? [] rules with
  | some id => throw (.defect (.duplicateRule id))
  | none => return rules

/-- The rules that a value defines. A locale that is given goes before that of the value. -/
def listOfValue (v : Value) (locale : Option Locale := none) : Except Error (List Rule) :=
  match v.bare with
  | .null => .ok []
  | .map entries => do
    let locale ← localeOf entries locale
    match listOrNone (Value.get? entries "rules") with
    | some definitions => listOfValues definitions locale
    | none => throw (.defect .rulesNotList)
  | .list definitions => listOfValues definitions locale
  | _ => .error (.defect .rulesNotList)

/-- The rules of a file, whose text `reader` makes a value. -/
def loadWith (reader : Text → Except Yaml.Fault Value) (f : TextFile) (locale : Option Locale := none) :
    Except Error (List Rule) := do
  match reader (← f.read .rules) with
  | .ok v => listOfValue v locale
  | .error .malformed => throw (.defect (.malformedFile f.name))
  | .error (.failed e) => throw e

/-- The rules of a file. -/
def load (f : TextFile) (locale : Option Locale := none) : Except Error (List Rule) :=
  loadWith Yaml.valueOfText f locale

end Rule

end Copyedit.Pattern
