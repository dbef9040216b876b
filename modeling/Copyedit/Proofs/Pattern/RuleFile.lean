import Copyedit.Proofs.Pattern.Make
import Copyedit.Proofs.Pattern.Oversight

/-!
# Reading rules

What reading rules ends with (`Rule.listOfValue_outcome`): a rule for each definition, in order and with
distinct identifiers, or a defect, or an oversight of some definition (`FileOversight`).  While a rule is
built from its parts, a value of the wrong kind counts as a defect of the rule (`atPlace`), so what is
overlooked there is only what is not written, and a reference of too many digits (`MakeFailure`); the parts
themselves are read before that, where nothing turns such a failure into a defect.
-/

namespace Copyedit.Pattern

variable {e : Error}

/-! ### Building a rule -/

/-- The texts of a rule that may refer to its elements: its message and its suggestions. -/
def templatesOf (message suggestions : Value) : List Value :=
  message :: (Rule.itemsOf suggestions).toOption.getD []

/-- A template refers to an element by more digits than are read. -/
def HasLongReference (templates : List Value) : Prop :=
  ∃ s, .text s ∈ templates ∧ ∃ digits ∈ references s.toList, Decimal.digitLimit < digits.length

theorem HasLongReference.of_mem {v : Value} {templates : List Value} (hv : v ∈ templates)
    (h : HasLongReference [v]) : HasLongReference templates := by
  obtain ⟨s, hs, hlong⟩ := h
  obtain rfl := List.mem_singleton.mp hs
  exact ⟨s, hv, hlong⟩

/-- A value is not written, with this error. -/
def IsUnwritten (v : Value) (e : Error) : Prop := ∃ f, v.writeFault? = some f ∧ e = .ofWriteFault f

/-- How building a rule fails. Apart from defects and values of the wrong kind there is only what `other`
tells. -/
inductive MakeFailure (other : Error → Prop) : Error → Prop
  /-- The rule is refused. -/
  | defect (d : Defect) : MakeFailure other (.defect d)
  /-- A value is not of the kind that is needed. -/
  | kind (f : KindFault) : MakeFailure other (.kind f)
  /-- Something else. -/
  | other {e : Error} (h : other e) : MakeFailure other e

theorem MakeFailure.mono {p q : Error → Prop} (himp : ∀ e, p e → q e) (h : MakeFailure p e) :
    MakeFailure q e := by
  cases h with
  | defect d => exact .defect d
  | kind f => exact .kind f
  | other hp => exact .other (himp e hp)

theorem MakeFailure.of_cited {d : Defect} {v : Value} (hcited : d.cited = [v]) :
    MakeFailure (IsUnwritten v) (Error.ofDefect d) := by
  rcases Error.ofDefect_cases d with ⟨d', hd⟩ | ⟨w, hw, hunwritten⟩
  · rw [hd]
    exact .defect d'
  · rw [hcited] at hw
    obtain rfl := List.mem_singleton.mp hw
    exact .other hunwritten

/-- At the place of a rule, values of the wrong kind are defects. -/
theorem atPlace_error {α : Type} {place : Place} {made : Except Error α} {other : Error → Prop}
    (hmade : ∀ e', made = .error e' → MakeFailure other e') (h : atPlace place made = .error e) :
    e.IsDefect ∨ other e := by
  unfold atPlace at h
  split at h
  · obtain rfl := Except.error.inj h
    exact .inl (Error.isDefect_defect _)
  · rename_i hnot
    cases hmade e h with
    | defect d => exact .inl (Error.isDefect_defect d)
    | kind f => exact absurd h (hnot f)
    | other hother => exact .inr hother

namespace Rule

theorem checkNumber_error {rule what : String} {count : Nat} {v : Value}
    (h : checkNumber rule what count v = .error e) : MakeFailure (IsUnwritten v) e := by
  unfold checkNumber at h
  split at h
  · cases h
  · split at h
    · obtain rfl := Except.error.inj h
      exact .kind _
    · split at h
      · cases h
      · obtain rfl := Except.error.inj h
        exact .of_cited rfl

theorem checkTemplate_error {rule : String} {count : Nat} {v : Value}
    (h : checkTemplate rule count v = .error e) :
    MakeFailure (fun e => HasLongReference [v] ∧ e = .value .tooManyDigits) e := by
  unfold checkTemplate at h
  split at h
  · rename_i s
    dsimp only at h
    split at h
    · rename_i digits hfind
      split at h
      · rename_i hlong
        obtain rfl := Except.error.inj h
        have hdigits := List.mem_of_find?_eq_some hfind
        exact .other ⟨⟨s, List.mem_singleton_self _, digits, hdigits, hlong⟩, rfl⟩
      · obtain rfl := Except.error.inj h
        exact .defect _
    · cases h
  · obtain rfl := Except.error.inj h
    exact .kind _
  · obtain rfl := Except.error.inj h
    exact .kind _

theorem sampleOf_error {rule : String} {v : Value} (h : sampleOf rule v = .error e) :
    MakeFailure (IsUnwritten v) e := by
  unfold sampleOf at h
  split at h
  · cases h
  · cases h
  · obtain rfl := Except.error.inj h
    exact .of_cited rfl

theorem refuseIf_error {other : Error → Prop} {isWrong : Bool} {d : Defect}
    (h : refuseIf isWrong d = .error e) : MakeFailure other e := by
  unfold refuseIf at h
  split at h
  · obtain rfl := Except.error.inj h
    exact .defect d
  · cases h

theorem make_error {d : Definition} (h : make d = .error e) :
    MakeFailure (fun e => (∃ v ∈ [d.source, d.sampleSource, d.sample], IsUnwritten v e) ∨
      (HasLongReference (templatesOf d.message d.suggestions) ∧ e = .value .tooManyDigits)) e := by
  rw [make_eq] at h
  -- the steps in their order: what is no defect comes from a number, from the sample or from a template
  rcases bind_error_iff.mp h with h | ⟨_, -, h⟩
  · exact refuseIf_error h
  rcases bind_error_iff.mp h with h | ⟨items, hitems, h⟩
  · obtain ⟨f, -, rfl⟩ := exists_of_mapError_error h
    exact .kind f
  rw [mapError_ok_iff] at hitems
  rcases bind_error_iff.mp h with h | ⟨_, -, h⟩
  · exact refuseIf_error h
  rcases bind_error_iff.mp h with h | ⟨_, -, h⟩
  · exact refuseIf_error h
  rcases bind_error_iff.mp h with h | ⟨_, -, h⟩
  · exact (checkNumber_error h).mono fun _ hunwritten => .inl ⟨d.source, by simp, hunwritten⟩
  rcases bind_error_iff.mp h with h | ⟨_, -, h⟩
  · exact (checkNumber_error h).mono fun _ hunwritten => .inl ⟨d.sampleSource, by simp, hunwritten⟩
  rcases bind_error_iff.mp h with h | ⟨sample, -, h⟩
  · exact (sampleOf_error h).mono fun _ hunwritten => .inl ⟨d.sample, by simp, hunwritten⟩
  rcases bind_error_iff.mp h with h | ⟨_, -, h⟩
  · exact refuseIf_error h
  rcases bind_error_iff.mp h with h | ⟨message, -, h⟩
  · exact (checkTemplate_error h).mono fun _ ⟨hlong, he⟩ => .inr ⟨hlong.of_mem List.mem_cons_self, he⟩
  rcases bind_error_iff.mp h with h | ⟨suggestions, -, h⟩
  · obtain ⟨v, hv, h⟩ := exists_of_mapM_error h
    have hmem : v ∈ templatesOf d.message d.suggestions := by
      rw [templatesOf, hitems]
      exact List.mem_cons_of_mem _ hv
    exact (checkTemplate_error h).mono fun _ ⟨hlong, he⟩ => .inr ⟨hlong.of_mem hmem, he⟩
  · cases h

/-! ### Definitions -/

/-- Checks that a definition has the keys that every definition has. -/
def requireKeys (place : Place) (entries : List (Value × Value)) : Except Error Unit :=
  match ["id", "message", "pattern"].find? fun key => (Value.get? entries key).isNone with
  | some key => .error (.defect (.missingKey place key))
  | none => .ok ()

/-- The elements of a pattern. -/
def elementsOf (place : Place) (pattern : Option Value) : Except Error (List Element) :=
  match pattern.map Value.bare with
  | some (.list items) =>
    items.zipIdx.mapM fun (e, i) => Element.ofValue { place with element := some (i + 1) } e
  | _ => .error (.defect (.patternNotList place))

/-- The conversion that a definition names, if it names one. -/
def conversionUnder (place : Place) (v : Option Value) : Except Error Conversion :=
  match v with
  | some v => conversionOf place v
  | none => .ok .keep

/-- What the entries of a definition give, apart from what is read before. -/
def definitionOf (entries : List (Value × Value)) (id : String) (elements : List Element)
    (conversion : Conversion) (locale : Option Locale) : Definition where
  id
  elements
  message := (Value.get? entries "message").getD .null
  source := (Value.get? entries "suggestion_source").getD .null
  conversion
  sample := (Value.get? entries "sample").getD .null
  sampleSource := (Value.get? entries "sample_source").getD .null
  suggestions := suggestionsOf (Value.get? entries "suggestions")
  caseSensitive := (Value.get? entries "case_sensitive").getD (.bool false)
  shortMessage := (Value.get? entries "short_message").getD (.text "")
  description := (Value.get? entries "description").getD (.text "")
  locale := locale.getD .english

theorem ofValue_eq (v : Value) (locale : Option Locale) : ofValue v locale =
  (do
    let entries ← entriesOf none v
    let id ← (Value.get? entries "id").mapM Value.text?
    let place : Place := { rule := id.getD "<no id>" }
    checkKeys place ruleKeys entries
    requireKeys place entries
    let elements ← elementsOf place (Value.get? entries "pattern")
    let conversion ← conversionUnder place (Value.get? entries "case_conversion")
    atPlace place (make (definitionOf entries place.rule elements conversion locale))) := by
  unfold ofValue requireKeys elementsOf conversionUnder definitionOf
  dsimp only
  refine bind_congr fun entries => bind_congr fun id => bind_congr fun _ => ?_
  cases ["id", "message", "pattern"].find? fun key => (Value.get? entries key).isNone with
  | some key => rfl
  | none =>
    cases (Value.get? entries "pattern").map Value.bare with
    | none => rfl
    | some p => cases p <;> cases Value.get? entries "case_conversion" <;> rfl

end Rule

/-- What is overlooked in a definition. -/
inductive RuleOversight (v : Value) : Error → Prop
  /-- Its keys, or what is written of it. -/
  | mapping {entries : List (Value × Value)} {e : Error} (hv : v.bare = .map entries)
    (h : MappingOversight ruleKeys entries e) : RuleOversight v e
  /-- One of its elements. -/
  | element {entries : List (Value × Value)} {items : List Value} {x : Value} {e : Error}
    (hv : v.bare = .map entries)
    (hpattern : (Value.get? entries "pattern").map Value.bare = some (.list items)) (hx : x ∈ items)
    (h : ElementOversight x e) : RuleOversight v e
  /-- A reference to an element that is read, but has too many digits. -/
  | reference {entries : List (Value × Value)} (hv : v.bare = .map entries)
    (h : HasLongReference (templatesOf ((Value.get? entries "message").getD .null)
      (suggestionsOf (Value.get? entries "suggestions")))) :
    RuleOversight v (.value .tooManyDigits)

theorem RuleOversight.not_isDefect {v : Value} (h : RuleOversight v e) : ¬ e.IsDefect := by
  cases h with
  | mapping _ h => exact h.not_isDefect
  | element _ _ _ h => exact h.not_isDefect
  | reference => exact Error.not_isDefect_value _

namespace Rule

theorem requireKeys_error {place : Place} {entries : List (Value × Value)}
    (h : requireKeys place entries = .error e) : e.IsDefect := by
  unfold requireKeys at h
  split at h
  · obtain rfl := Except.error.inj h
    exact Error.isDefect_defect _
  · cases h

theorem elementsOf_error {place : Place} {pattern : Option Value}
    (h : elementsOf place pattern = .error e) :
    e.IsDefect ∨ ∃ items, pattern.map Value.bare = some (.list items) ∧
      ∃ x ∈ items, ElementOversight x e := by
  unfold elementsOf at h
  split at h
  · rename_i items hitems
    obtain ⟨⟨x, i⟩, hx, hmake⟩ := exists_of_mapM_error h
    have hmem : x ∈ items := List.fst_mem_of_mem_zipIdx hx
    exact (Element.ofValue_error hmake).imp_right fun h => ⟨items, hitems, x, hmem, h⟩
  · obtain rfl := Except.error.inj h
    exact .inl (Error.isDefect_defect _)

theorem conversionUnder_error {place : Place} {known : List String} {entries : List (Value × Value)}
    {key : String} (h : conversionUnder place (Value.get? entries key) = .error e) :
    e.IsDefect ∨ MappingOversight known entries e := by
  unfold conversionUnder at h
  split at h
  · rename_i v hget
    unfold conversionOf at h
    rcases bind_error_iff.mp h with htext | ⟨t, -, h⟩
    · obtain ⟨f, hf, rfl⟩ := Value.text?_error htext
      exact .inr (.unwritten (Value.standsIn_of_get? hget) hf)
    · split at h
      · cases h
      · obtain rfl := Except.error.inj h
        refine MappingOversight.of_defect fun w hw _ _ => ?_
        obtain rfl := List.mem_singleton.mp hw
        exact Value.standsIn_of_get? hget
  · cases h

theorem ofValue_error {v : Value} {locale : Option Locale} (h : ofValue v locale = .error e) :
    e.IsDefect ∨ RuleOversight v e := by
  rw [ofValue_eq] at h
  rcases bind_error_iff.mp h with hentries | ⟨entries, hentries, h⟩
  · exact .inl (entriesOf_error hentries)
  have hv := bare_of_entriesOf hentries
  rcases bind_error_iff.mp h with hid | ⟨id, -, h⟩
  · exact .inr (.mapping hv (textUnder_error hid))
  dsimp only at h
  rcases bind_error_iff.mp h with hkeys | ⟨_, -, h⟩
  · exact (checkKeys_error hkeys).imp_right (.mapping hv)
  rcases bind_error_iff.mp h with hrequire | ⟨_, -, h⟩
  · exact .inl (requireKeys_error hrequire)
  rcases bind_error_iff.mp h with helements | ⟨elements, -, h⟩
  · rcases elementsOf_error helements with hdefect | ⟨items, hitems, x, hx, h⟩
    · exact .inl hdefect
    · exact .inr (.element hv hitems hx h)
  rcases bind_error_iff.mp h with hconversion | ⟨conversion, -, h⟩
  · exact (conversionUnder_error hconversion).imp_right (.mapping hv)
  -- what is not written stands under a key of the definition, and a long reference in a template
  rcases atPlace_error (fun _ => make_error) h with hdefect | ⟨w, hw, f, hf, rfl⟩ | ⟨hreference, rfl⟩
  · exact .inl hdefect
  · simp only [List.mem_cons, List.not_mem_nil, or_false] at hw
    rcases hw with rfl | rfl | rfl <;>
      exact .inr (.mapping hv (.unwritten (Value.standsIn_of_getD rfl hf) hf))
  · exact .inr (.reference hv hreference)

/-- What is known of the rule that a definition is read as. -/
structure IsRuleOf (locale : Option Locale) (v : Value) (r : Rule) : Prop where
  /-- It is what reading the definition gives. -/
  read : ofValue v locale = .ok r
  /-- It has the identifier that the definition gives it. -/
  id_eq : ∃ entries id, v.bare = .map entries ∧ Value.get? entries "id" = some id ∧ r.id = id.shown
  /-- It is made from what the definition holds. -/
  made : ∃ entries elements conversion, v.bare = .map entries ∧
    IsMadeFrom (definitionOf entries r.id elements conversion locale) r

theorem exists_id_of_requireKeys {place : Place} {entries : List (Value × Value)}
    (h : requireKeys place entries = .ok ()) : ∃ v, Value.get? entries "id" = some v := by
  unfold requireKeys at h
  split at h
  · cases h
  · rename_i hfind
    have hnot := List.find?_eq_none.mp hfind "id" List.mem_cons_self
    exact Option.ne_none_iff_exists'.mp fun hnone => hnot (by rw [hnone]; rfl)

theorem ok_of_atPlace {α : Type} {place : Place} {made : Except Error α} {a : α}
    (h : atPlace place made = .ok a) : made = .ok a := by
  unfold atPlace at h
  split at h
  · cases h
  · exact h

theorem isRuleOf_of_ofValue {v : Value} {locale : Option Locale} {r : Rule}
    (hread : ofValue v locale = .ok r) : IsRuleOf locale v r := by
  have h := hread
  rw [ofValue_eq] at h
  obtain ⟨entries, hentries, h⟩ := bind_ok_iff.mp h
  obtain ⟨id?, hid, h⟩ := bind_ok_iff.mp h
  dsimp only at h
  obtain ⟨_, -, h⟩ := bind_ok_iff.mp h
  obtain ⟨_, hrequire, h⟩ := bind_ok_iff.mp h
  obtain ⟨elements, -, h⟩ := bind_ok_iff.mp h
  obtain ⟨conversion, -, h⟩ := bind_ok_iff.mp h
  have hmade := isMadeFrom_of_make (ok_of_atPlace h)
  obtain ⟨id, hget⟩ := exists_id_of_requireKeys hrequire
  rw [hget] at hid
  obtain ⟨text, htext, rfl⟩ := map_ok_iff.mp hid
  have hv := bare_of_entriesOf hentries
  have hid_eq : r.id = text := by rw [hmade.rule_eq]; rfl
  exact {
    read := hread
    id_eq := ⟨entries, id, hv, hget, hid_eq.trans (Value.text?_ok htext)⟩
    made := ⟨entries, elements, conversion, hv, hid_eq ▸ hmade⟩ }

/-! ### Files -/

theorem duplicate?_eq_none_iff {seen : List String} {rules : List Rule} :
    duplicate? seen rules = none ↔ (rules.map (·.id)).Nodup ∧ ∀ r ∈ rules, r.id ∉ seen := by
  induction rules generalizing seen with
  | nil => simp [duplicate?]
  | cons r rest ih =>
    unfold duplicate?
    split
    · simp_all
    · rw [ih]
      grind

/-- The definitions that a value holds. -/
def definitionsOf? (v : Value) : Option (List Value) :=
  match v.bare with
  | .null => some []
  | .map entries => listOrNone (Value.get? entries "rules")
  | .list definitions => some definitions
  | _ => none

/-- The locale of the rules that a value defines: the one that is given, or else its own. -/
def localeFor (v : Value) (locale : Option Locale) : Except Error (Option Locale) :=
  match v.bare with
  | .map entries => localeOf entries locale
  | _ => .ok locale

theorem listOfValue_eq (v : Value) (locale : Option Locale) : listOfValue v locale =
    (localeFor v locale >>= fun locale =>
      match definitionsOf? v with
      | some definitions => listOfValues definitions locale
      | none => .error (.defect .rulesNotList)) := by
  unfold listOfValue localeFor definitionsOf?
  cases v.bare <;> rfl

/-- What is known of the rules that a value defines. -/
structure AreRulesOf (v : Value) (locale : Option Locale) (rules : List Rule) : Prop where
  /-- There is one for each definition, in order. -/
  read : ∃ definitions locale', definitionsOf? v = some definitions ∧ localeFor v locale = .ok locale' ∧
    List.Forall₂ (IsRuleOf locale') definitions rules
  /-- No two have the same identifier. -/
  distinct : (rules.map (·.id)).Nodup

/-- What is overlooked in a value that defines rules. -/
inductive FileOversight (v : Value) : Error → Prop
  /-- Its locale, which is to be written, but has too long an integer in it or is nested too deeply. -/
  | locale {entries : List (Value × Value)} {name : Value} {f : Value.WriteFault}
    (hv : v.bare = .map entries) (hname : Value.get? entries "locale" = some name)
    (h : name.writeFault? = some f) : FileOversight v (.ofWriteFault f)
  /-- One of its definitions. -/
  | definition {definitions : List Value} {d : Value} {e : Error}
    (hdefinitions : definitionsOf? v = some definitions) (hd : d ∈ definitions)
    (h : RuleOversight d e) : FileOversight v e

theorem FileOversight.not_isDefect {v : Value} (h : FileOversight v e) : ¬ e.IsDefect := by
  cases h with
  | locale => exact Error.not_isDefect_ofWriteFault _
  | definition _ _ h => exact h.not_isDefect

theorem localeFor_error {v : Value} {locale : Option Locale} (h : localeFor v locale = .error e) :
    e.IsDefect ∨ FileOversight v e := by
  unfold localeFor at h
  split at h
  · rename_i entries hv
    unfold localeOf at h
    split at h
    · rename_i name hname
      split at h
      · rcases bind_error_iff.mp h with htext | ⟨text, -, h⟩
        · obtain ⟨f, hf, rfl⟩ := Value.text?_error htext
          exact .inr (.locale hv hname hf)
        · rcases bind_error_iff.mp h with hlocale | ⟨_, -, hdone⟩
          · unfold Locale.ofName at hlocale
            split at hlocale
            · obtain rfl := Except.error.inj hlocale
              exact .inl (Error.isDefect_defect _)
            · cases hlocale
          · cases hdone
      · cases h
    · cases h
  · cases h

theorem listOfValues_ok {definitions : List Value} {locale : Option Locale} {rules : List Rule}
    (h : listOfValues definitions locale = .ok rules) :
    List.Forall₂ (IsRuleOf locale) definitions rules ∧ (rules.map (·.id)).Nodup := by
  obtain ⟨rules', hread, h⟩ := bind_ok_iff.mp h
  split at h
  · cases h
  · rename_i hduplicate
    obtain rfl := Except.ok.inj h
    have hrules := (mapM_ok_iff.mp hread).imp fun _ _ => isRuleOf_of_ofValue
    exact ⟨hrules, (duplicate?_eq_none_iff.mp hduplicate).1⟩

theorem listOfValues_error {definitions : List Value} {locale : Option Locale}
    (h : listOfValues definitions locale = .error e) :
    e.IsDefect ∨ ∃ d ∈ definitions, RuleOversight d e := by
  rcases bind_error_iff.mp h with hread | ⟨rules, -, h⟩
  · obtain ⟨d, hd, hfail⟩ := exists_of_mapM_error hread
    exact (ofValue_error hfail).imp_right fun h => ⟨d, hd, h⟩
  · split at h
    · obtain rfl := Except.error.inj h
      exact .inl (Error.isDefect_defect _)
    · cases h

theorem areRulesOf_of_listOfValue {v : Value} {locale : Option Locale} {rules : List Rule}
    (h : listOfValue v locale = .ok rules) : AreRulesOf v locale rules := by
  rw [listOfValue_eq] at h
  obtain ⟨locale', hlocale, h⟩ := bind_ok_iff.mp h
  split at h
  · rename_i definitions hdefinitions
    obtain ⟨hread, hdistinct⟩ := listOfValues_ok h
    exact ⟨⟨definitions, locale', hdefinitions, hlocale, hread⟩, hdistinct⟩
  · cases h

theorem listOfValue_error {v : Value} {locale : Option Locale}
    (h : listOfValue v locale = .error e) : e.IsDefect ∨ FileOversight v e := by
  rw [listOfValue_eq] at h
  rcases bind_error_iff.mp h with hlocale | ⟨locale', -, h⟩
  · exact localeFor_error hlocale
  split at h
  · rename_i definitions hdefinitions
    refine (listOfValues_error h).imp_right fun ⟨d, hd, h⟩ => ?_
    exact .definition hdefinitions hd h
  · obtain rfl := Except.error.inj h
    exact .inl (Error.isDefect_defect _)

/-- **Reading rules.**  Reading the rules that a value defines gives a rule for each definition, in order
and with distinct identifiers; or it refuses the value with a defect; or else it fails with an error that
is no defect, because something in the value is overlooked. -/
theorem listOfValue_outcome (v : Value) (locale : Option Locale) :
    (∃ rules, listOfValue v locale = .ok rules ∧ AreRulesOf v locale rules) ∨
      (∃ d, listOfValue v locale = .error (.defect d)) ∨
      ∃ e, listOfValue v locale = .error e ∧ ¬ e.IsDefect ∧ FileOversight v e := by
  cases h : listOfValue v locale with
  | ok rules => exact .inl ⟨rules, rfl, areRulesOf_of_listOfValue h⟩
  | error e =>
    rcases listOfValue_error h with ⟨d, rfl⟩ | hoversight
    · exact .inr (.inl ⟨d, rfl⟩)
    · exact .inr (.inr ⟨e, rfl, hoversight.not_isDefect, hoversight⟩)

/-- A definition with an element whose least number of tokens is given as a text. -/
def textBound : Value :=
  .list [.map [(.text "id", .text "R"), (.text "message", .text "m"),
    (.text "pattern", .list [.map [(.text "token", .text "x"), (.text "min", .text "two")]])]]

/-- Such a bound is compared before anything else is done with it, so it neither makes a rule nor is
refused. -/
theorem listOfValue_textBound :
    listOfValue textBound none = .error (.kind (.notOrdered "<" "str" "int")) ∧
      ¬ ((∃ rules, listOfValue textBound none = .ok rules ∧ AreRulesOf textBound none rules) ∨
        ∃ d, listOfValue textBound none = .error (.defect d)) := by
  have hread : listOfValue textBound none = .error (.kind (.notOrdered "<" "str" "int")) := rfl
  refine ⟨hread, ?_⟩
  rintro (⟨rules, h, -⟩ | ⟨d, h⟩)
  · cases hread.symm.trans h
  · cases hread.symm.trans h

/-- A definition with one element, which demands a token. -/
def demanding (token : Value) : Value :=
  .list [.map [(.text "id", .text "R"), (.text "message", .text "m"),
    (.text "pattern", .list [.map [(.text "token", token)]])]]

/-- A token that is not written stops reading. -/
theorem listOfValue_unwritten {token : Value} {f : Value.WriteFault} (h : token.writeFault? = some f) :
    listOfValue (demanding token) none = .error (.ofWriteFault f) := by
  have htext : token.text? = .error (.ofWriteFault f) := by
    unfold Value.text?
    rw [h]
  -- the failure is handed on from the demand to the element, its pattern and the definition
  have hdemand : demandOf [(.text "token", token)] = .error (.ofWriteFault f) :=
    bind_error_iff.mpr (.inl (bind_error_iff.mpr (.inl htext)))
  have helement : Element.ofValue { rule := "R", element := some 1 } (.map [(.text "token", token)]) =
      .error (.ofWriteFault f) :=
    bind_error_iff.mpr (.inr ⟨_, rfl, bind_error_iff.mpr (.inr ⟨(), rfl, bind_error_iff.mpr (.inl hdemand)⟩)⟩)
  have helements : elementsOf { rule := "R" } (some (.list [.map [(.text "token", token)]])) =
      .error (.ofWriteFault f) :=
    bind_error_iff.mpr (.inl helement)
  refine bind_error_iff.mpr (.inl (bind_error_iff.mpr (.inl ?_)))
  dsimp only
  rw [ofValue_eq]
  refine bind_error_iff.mpr (.inr ⟨_, rfl, bind_error_iff.mpr (.inr ⟨some "R", rfl, ?_⟩)⟩)
  refine bind_error_iff.mpr (.inr ⟨(), rfl, bind_error_iff.mpr (.inr ⟨(), rfl, ?_⟩)⟩)
  exact bind_error_iff.mpr (.inl helements)

/-- So does one of too many lists inside of each other. -/
theorem listOfValue_nested {n : Nat} (hn : Value.depthLimit ≤ n) :
    listOfValue (demanding (.nested .null n)) none = .error .tooDeep :=
  listOfValue_unwritten (by rw [Value.writeFault?_nested, if_neg (Nat.not_lt.mpr hn)])

end Rule

end Copyedit.Pattern
