import Copyedit.Pattern.Rule
import Copyedit.Proofs.Outcome

/-!
# Making rules

A definition goes through one check after the other (`Rule.make_eq`); the first that fails refuses it.  A
rule that is made has passed them all, and is otherwise what the definition says (`Rule.isMadeFrom_of_make`).
A definition that gives elements and a message without references does pass, and makes the rule of these
elements, with nothing in it that the definition does not say (`Rule.make_plain`).
-/

namespace Copyedit.Pattern

/-- Refuses a definition if something is wrong with it. -/
def refuseIf (isWrong : Bool) (d : Defect) : Except Error Unit :=
  if isWrong then .error (.defect d) else .ok ()

namespace Rule

/-- The sample that a definition gives. -/
def sampleOf (rule : String) : Value → Except Error (Option Text)
  | .null => .ok none
  | .text s => .ok (some s.toList)
  | v => .error (.ofDefect (.sampleNotText rule v))

/-- The checks of a definition, in order. -/
theorem make_eq (d : Definition) : make d = do
    refuseIf d.id.isEmpty .noIdentifier
    let suggestions ← (itemsOf d.suggestions).mapError .kind
    refuseIf d.elements.isEmpty (.noElements d.id)
    refuseIf (d.elements.all (·.isOptional)) (.onlyOptional d.id)
    checkNumber d.id "suggestion_source" d.elements.length d.source
    checkNumber d.id "sample_source" d.elements.length d.sampleSource
    let sample ← sampleOf d.id d.sample
    refuseIf (d.source.isNull && d.conversion ≠ .keep) (.conversionWithoutSource d.id)
    let message ← checkTemplate d.id d.elements.length d.message
    let suggestions ← suggestions.mapM (checkTemplate d.id d.elements.length)
    return { d with message, sample, suggestions } := by
  unfold make refuseIf
  dsimp only
  cases d.id.isEmpty with
  | true => rfl
  | false =>
    refine bind_congr fun suggestions => ?_
    cases d.elements.isEmpty with
    | true => rfl
    | false =>
      cases d.elements.all (·.isOptional) with
      | true => rfl
      | false =>
        refine bind_congr fun _ => bind_congr fun _ => ?_
        cases d.source.isNull && d.conversion ≠ .keep <;> cases d.sample <;> rfl

/-- What is known of a rule that a definition makes. -/
structure IsMadeFrom (d : Definition) (r : Rule) : Prop where
  /-- It is what the definition says, but for what is compiled. -/
  rule_eq : r = { d with message := r.message, sample := r.sample, suggestions := r.suggestions }
  /-- The source is the number of an element, if there is one. -/
  source : checkNumber d.id "suggestion_source" d.elements.length d.source = .ok ()
  /-- The source of the sample is the number of an element, if there is one. -/
  sampleSource : checkNumber d.id "sample_source" d.elements.length d.sampleSource = .ok ()
  /-- The message refers to elements. -/
  message : checkTemplate d.id d.elements.length d.message = .ok r.message
  /-- So do the suggestions. -/
  suggestions : ∃ items, itemsOf d.suggestions = .ok items ∧
    items.mapM (checkTemplate d.id d.elements.length) = .ok r.suggestions

theorem isMadeFrom_of_make {d : Definition} {r : Rule} (h : make d = .ok r) : IsMadeFrom d r := by
  rw [make_eq] at h
  obtain ⟨_, -, h⟩ := bind_ok_iff.mp h
  obtain ⟨items, hitems, h⟩ := bind_ok_iff.mp h
  obtain ⟨_, -, h⟩ := bind_ok_iff.mp h
  obtain ⟨_, -, h⟩ := bind_ok_iff.mp h
  obtain ⟨_, hsource, h⟩ := bind_ok_iff.mp h
  obtain ⟨_, hsampleSource, h⟩ := bind_ok_iff.mp h
  obtain ⟨sample, -, h⟩ := bind_ok_iff.mp h
  obtain ⟨_, -, h⟩ := bind_ok_iff.mp h
  obtain ⟨message, hmessage, h⟩ := bind_ok_iff.mp h
  obtain ⟨suggestions, hsuggestions, rfl⟩ := map_ok_iff.mp h
  exact {
    rule_eq := rfl
    source := hsource
    sampleSource := hsampleSource
    message := hmessage
    suggestions := ⟨items, mapError_ok_iff.mp hitems, hsuggestions⟩ }

theorem make_plain {id message : String} {es : List Element} {setting : Value} {locale : Locale}
    (hid : id.isEmpty = false) (hes : es.all (·.isOptional) = false)
    (hmessage : references message.toList = []) :
    make { id, elements := es, message := .text message, caseSensitive := setting, locale } =
      .ok {
        id, elements := es, message := message.toList, source := .null, conversion := .keep,
        sample := none, sampleSource := .null, suggestions := [], caseSensitive := setting,
        shortMessage := .text "", description := .text "", locale } := by
  have hne : es.isEmpty = false := by
    cases es with
    | nil => cases hes
    | cons e es => rfl
  have hcheck : checkTemplate id es.length (.text message) = .ok message.toList := by
    simp only [checkTemplate, hmessage, List.find?_nil]
    rfl
  unfold make
  simp only [hid, hes, hne, hcheck]
  rfl

end Rule

end Copyedit.Pattern
