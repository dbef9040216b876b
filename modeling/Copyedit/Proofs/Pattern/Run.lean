import Copyedit.Proofs.Pattern.Extent
import Copyedit.Proofs.Pattern.RuleFile
import Copyedit.Proofs.Sentence.Surface
import Copyedit.Proofs.Sequence
import Copyedit.Rules.Basic

/-!
# Running the rules of a file

A rule that was read has passed the checks of its definition: its templates refer to its elements, and so do
the numbers of its source and its sample (`Rule.IsConsistent`).  A match has a text for each element, so
whatever is reported of it is there, and running the rule does not fail (`Rule.findings_of_listOfValue`) but
for two values that are not checked: a case setting that chooses nothing, and a number with a fraction for
an element.
-/

namespace Copyedit.Pattern

variable {e : Error}

/-! ### Texts -/

/-- Tokens with texts can be joined. -/
theorem exists_surfaceText {tokens : List Token} (htexts : ∀ k ∈ tokens, k.text.isSome = true) :
    ∃ t, surfaceText tokens = .ok t := by
  cases tokens with
  | nil => exact ⟨[], rfl⟩
  | cons first rest => exact ⟨_, surfaceText_cons htexts⟩

/-- Only tokens with texts can be joined. -/
theorem surfaceText_ok_iff {tokens : List Token} :
    (∃ t, surfaceText tokens = .ok t) ↔ ∀ k ∈ tokens, k.text.isSome = true := by
  refine ⟨fun ⟨t, ht⟩ k hk => ?_, exists_surfaceText⟩
  unfold surfaceText at ht
  dsimp only at ht
  split at ht
  · cases ht
  · rename_i hnone
    rw [List.findIdx?_eq_none_iff] at hnone
    cases tokens with
    | nil => cases hk
    | cons first rest =>
      have hpart : k.text ∈ first.text :: rest.flatMap fun t =>
          (if t.spaceBefore then [some [' ']] else []) ++ [t.text] := by
        rcases List.mem_cons.mp hk with rfl | hk
        · exact List.mem_cons_self
        · exact List.mem_cons_of_mem _ (List.mem_flatMap.mpr ⟨k, hk, by simp⟩)
      have hsome := hnone _ hpart
      simpa [Option.isNone_eq_false_iff] using hsome

/-- What is not joined is a token without a text. -/
theorem surfaceText_error {tokens : List Token} (h : surfaceText tokens = .error e) :
    ∃ i, e = .kind (.notJoinable i "NoneType") := by
  unfold surfaceText at h
  dsimp only at h
  split at h
  · exact ⟨_, (Except.error.inj h).symm⟩
  · cases h

/-- Whether all tokens from one position up to another have texts. -/
def HaveTexts (tokens : List Token) (first stop : Int) : Prop :=
  ∀ (i : Nat) (k : Token), first ≤ i → i < stop → tokens[i]? = some k → k.text.isSome = true

namespace Rule

variable {r : Rule} {tokens : List Token} {texts : List Text}

/-! ### Consistency -/

/-- Whether a value is null or the number of one of `count` elements, as far as it is checked: of a number
with a fraction only the range is. -/
def IsNumberOf (count : Nat) (v : Value) : Prop :=
  v = .null ∨ (∃ n, v.integer? = some n ∧ 1 ≤ n ∧ n ≤ count) ∨ ∃ x, v = .real x

theorem isNumberOf_of_checkNumber {rule what : String} {count : Nat} {v : Value}
    (h : checkNumber rule what count v = .ok ()) : IsNumberOf count v := by
  unfold checkNumber at h
  split at h
  · exact .inl rfl
  · split at h
    · cases h
    · split at h
      · rename_i x hnumber hbounds
        rcases Value.integer_or_real hnumber with ⟨n, hn⟩ | hreal
        · rw [Value.atMost?_of_integers rfl hn, Value.atMost?_of_integers hn rfl, Bool.and_eq_true] at hbounds
          exact .inr (.inl ⟨n, hn, of_decide_eq_true hbounds.1, of_decide_eq_true hbounds.2⟩)
        · exact .inr (.inr ⟨x, hreal⟩)
      · cases h

/-- A template refers to one of `count` elements only, and by numbers that can be read. -/
def RefersWithin (count : Nat) (t : Text) : Prop :=
  ∀ digits ∈ references t,
    digits.length ≤ Decimal.digitLimit ∧ 1 ≤ numberOf digits ∧ numberOf digits ≤ count

theorem refersWithin_of_checkTemplate {rule : String} {count : Nat} {v : Value} {t : Text}
    (h : checkTemplate rule count v = .ok t) : RefersWithin count t := by
  unfold checkTemplate at h
  split at h
  · rename_i s
    dsimp only at h
    split at h
    · split at h <;> cases h
    · rename_i hfind
      obtain rfl := Except.ok.inj h
      intro digits hdigits
      have hgood := List.find?_eq_none.mp hfind digits hdigits
      simpa [and_assoc, Nat.one_le_iff_ne_zero] using hgood
  · cases h
  · cases h

/-- The numbers and references of a rule are those of its elements. -/
structure IsConsistent (r : Rule) : Prop where
  /-- The source is one of them, if there is one. -/
  source : IsNumberOf r.elements.length r.source
  /-- So is the source of the sample. -/
  sampleSource : IsNumberOf r.elements.length r.sampleSource
  /-- Message and suggestions refer to them only. -/
  templates : ∀ t ∈ r.message :: r.suggestions, RefersWithin r.elements.length t

theorem IsMadeFrom.isConsistent {d : Definition} (h : IsMadeFrom d r) : r.IsConsistent := by
  have helements : r.elements = d.elements := congrArg Rule.elements h.rule_eq
  have hsource : r.source = d.source := congrArg Rule.source h.rule_eq
  have hsampleSource : r.sampleSource = d.sampleSource := congrArg Rule.sampleSource h.rule_eq
  refine ⟨?_, ?_, ?_⟩
  · rw [helements, hsource]
    exact isNumberOf_of_checkNumber h.source
  · rw [helements, hsampleSource]
    exact isNumberOf_of_checkNumber h.sampleSource
  · intro t ht
    rw [helements]
    rcases List.mem_cons.mp ht with rfl | ht
    · exact refersWithin_of_checkTemplate h.message
    · obtain ⟨items, -, hsuggestions⟩ := h.suggestions
      obtain ⟨v, -, hv⟩ := exists_of_mem_mapM hsuggestions ht
      exact refersWithin_of_checkTemplate hv

/-! ### Suggestions -/

/-- A template is expanded unless a reference leads to no text. -/
theorem expand_error {ε : Type} {text : Nat → Except ε Text} {t : Text} {err : ε}
    (h : expand text t = .error err) : ∃ digits ∈ references t, text (numberOf digits) = .error err := by
  rcases bind_error_iff.mp h with h | ⟨parts, -, hdone⟩
  · obtain ⟨piece, hpiece, hfails⟩ := exists_of_mapM_error h
    cases piece with
    | char c => cases hfails
    | reference digits => exact ⟨digits, List.mem_filterMap.mpr ⟨_, hpiece, rfl⟩, hfails⟩
  · cases hdone

/-- What is reported fails because an element is counted by a number with a fraction. -/
def IsFractionFailure (r : Rule) (e : Error) : Prop :=
  ∃ x, (r.source = .real x ∨ r.sampleSource = .real x) ∧ e = .kind (.notPosition "float")

theorem textAt_error {v : Value} (hv : IsNumberOf texts.length v) (hnull : v.isNull = false)
    (h : textAt texts v = .error e) : ∃ x, v = .real x ∧ e = .kind (.notPosition "float") := by
  rcases hv with rfl | ⟨n, hn, hone, hcount⟩ | ⟨x, rfl⟩
  · cases hnull
  · unfold textAt at h
    rw [hn] at h
    obtain ⟨-, hout⟩ := itemAt_error h
    omega
  · exact ⟨x, rfl, (Except.error.inj h).symm⟩

section Texts

variable (hr : r.IsConsistent) (hlength : texts.length = r.elements.length)
include hr hlength

theorem sampleText_error (hsource : r.source.isNull = false) (h : r.sampleText texts = .error e) :
    r.IsFractionFailure e := by
  unfold sampleText at h
  dsimp only at h
  rw [ite_bind_eq] at h
  rcases bind_error_iff.mp h with h | ⟨matched, -, h⟩
  · split at h
    · cases h
    · rename_i hnull
      obtain ⟨x, hx, rfl⟩ := textAt_error (hlength ▸ hr.sampleSource) (by simpa using hnull) h
      exact ⟨x, .inr hx, rfl⟩
  · split at h
    · cases h
    · split at h
      · cases h
      · obtain ⟨x, hx, rfl⟩ := textAt_error (hlength ▸ hr.source) hsource h
        exact ⟨x, .inl hx, rfl⟩

theorem converted_error (h : r.converted texts = .error e) : r.IsFractionFailure e := by
  unfold converted at h
  split at h
  · cases h
  · rename_i hnull
    have hsource : r.source.isNull = false := by simpa using hnull
    rcases bind_error_iff.mp h with h | ⟨source, -, h⟩
    · obtain ⟨x, hx, rfl⟩ := textAt_error (hlength ▸ hr.source) hsource h
      exact ⟨x, .inl hx, rfl⟩
    · rcases bind_error_iff.mp h with h | ⟨sample, -, h⟩
      · exact sampleText_error hr hlength hsource h
      · cases h

/-- The templates of a rule refer only to texts that are there. -/
theorem expandWith_ne_error {source : Option Text} {t : Text} (ht : t ∈ r.message :: r.suggestions) :
    r.expandWith texts source t ≠ .error e := by
  intro h
  obtain ⟨digits, hdigits, hfails⟩ := expand_error h
  obtain ⟨-, hone, hle⟩ := hr.templates t ht digits hdigits
  have hreferred : referredText texts (numberOf digits) ≠ .error e := by
    intro h
    obtain ⟨-, hout⟩ := itemAt_error h
    omega
  split at hfails
  · split at hfails
    · cases hfails
    · exact hreferred hfails
  · exact hreferred hfails

theorem suggestionsFor_error (h : r.suggestionsFor texts = .error e) : r.IsFractionFailure e := by
  unfold suggestionsFor at h
  rcases bind_error_iff.mp h with h | ⟨source, -, h⟩
  · exact converted_error hr hlength h
  dsimp only at h
  rw [ite_bind_eq] at h
  rcases bind_error_iff.mp h with h | ⟨made, -, hdone⟩
  · split at h
    · cases h
    · obtain ⟨t, ht, hfails⟩ := exists_of_mapM_error h
      exact absurd hfails (expandWith_ne_error hr hlength (List.mem_cons_of_mem _ ht))
  · cases hdone

end Texts

/-! ### Findings -/

/-- The tokens of a match have texts iff those of each span have. -/
theorem IsMatch.haveTexts_iff {a : Attempt} {spans : List Span} (ha : r.IsMatch tokens a spans)
    (hstart : 0 ≤ a.start) : HaveTexts tokens a.start a.stop ↔
      ∀ s ∈ spans, ∀ k ∈ stretch tokens s.first s.stop, k.text.isSome = true := by
  have hbounds := ha.parses.bounds
  rw [ha.stop_eq] at hbounds
  constructor
  · intro h s hs k hk
    obtain ⟨hfirst, hle, hstop⟩ := hbounds s hs
    obtain ⟨i, hi, hi', hget⟩ := (mem_stretch_iff (by omega) (by omega)).mp hk
    exact h i k (by omega) (by omega) hget
  · intro h i k hle hlt hget
    obtain ⟨e, -, s, hs, -, hfirst, hstop⟩ := ha.parses.exists_span hle (ha.stop_eq ▸ hlt)
    obtain ⟨hge, -, -⟩ := hbounds s hs
    exact h s hs k ((mem_stretch_iff (by omega) (by omega)).mpr ⟨i, hfirst, hstop, hget⟩)

/-- A match with a token without a text cannot be reported, as the texts cannot be joined. -/
theorem report_of_not_haveTexts {a : Attempt} {spans : List Span} (ha : r.IsMatch tokens a spans)
    (hstart : 0 ≤ a.start) (hmissing : ¬ HaveTexts tokens a.start a.stop) :
    ∃ i, r.report tokens spans = .error (.kind (.notJoinable i "NoneType")) := by
  unfold report
  cases htexts : (spans.mapM fun s => surfaceText (stretch tokens s.first s.stop)) with
  | ok texts =>
    refine absurd ((ha.haveTexts_iff hstart).mpr fun s hs => ?_) hmissing
    obtain ⟨t, -, ht⟩ := exists_of_mem_forall₂ (mapM_ok_iff.mp htexts).flip hs
    exact surfaceText_ok_iff.mp ⟨t, ht⟩
  | error e =>
    obtain ⟨s, -, hsurface⟩ := exists_of_mapM_error htexts
    obtain ⟨i, rfl⟩ := surfaceText_error hsurface
    exact ⟨i, rfl⟩

theorem report_error (hr : r.IsConsistent) {a : Attempt} {spans : List Span}
    (ha : r.IsMatch tokens a spans) (hstart : 0 ≤ a.start) (htexts : HaveTexts tokens a.start a.stop)
    (h : r.report tokens spans = .error e) : r.IsFractionFailure e := by
  have hextent := ha.extent
  obtain ⟨hfirst, hlast⟩ := ha.ends
  unfold report at h
  rcases bind_error_iff.mp h with h | ⟨texts, htextsOf, h⟩
  · obtain ⟨s, hs, hsurface⟩ := exists_of_mapM_error h
    obtain ⟨t, ht⟩ := exists_surfaceText ((ha.haveTexts_iff hstart).mp htexts s hs)
    cases hsurface.symm.trans ht
  have hlength : texts.length = r.elements.length := by
    rw [← ha.length_eq]
    exact (mapM_ok_iff.mp htextsOf).length_eq.symm
  dsimp only at h
  rw [hfirst, hlast] at h
  -- a match lies within the tokens and references are to its elements, so only the suggestions can fail
  rcases bind_error_iff.mp h with h | ⟨message, -, h⟩
  · exact absurd h (expandWith_ne_error hr hlength List.mem_cons_self)
  rcases bind_error_iff.mp h with h | ⟨firstToken, -, h⟩
  · obtain ⟨-, hout⟩ := itemAt_error h
    omega
  rcases bind_error_iff.mp h with h | ⟨lastToken, hlastToken, h⟩
  · obtain ⟨-, hout⟩ := itemAt_error h
    omega
  rcases bind_error_iff.mp h with h | ⟨stop, -, h⟩
  · have hget := getElem?_of_itemAt (by omega) hlastToken
    obtain ⟨text, htext⟩ :=
      Option.isSome_iff_exists.mp (htexts (a.stop - 1).toNat lastToken (by omega) (by omega) hget)
    unfold Token.stop at h
    rw [htext] at h
    cases h
  rcases bind_error_iff.mp h with h | ⟨suggestions, -, h⟩
  · exact suggestionsFor_error hr hlength h
  · cases h

theorem findings_error (hr : r.IsConsistent) (htexts : ∀ k ∈ tokens, k.text.isSome = true)
    (h : r.findings tokens = .error e) :
    IsCaseFailure r.caseSettings e ∨ r.IsFractionFailure e := by
  rcases @attemptsFrom_spec r tokens tokens.length 0 (Int.le_refl 0) (by omega) with
    ⟨found, hfound, hscan⟩ | ⟨err, herr, hcase⟩
  · -- every match that is found can be reported, but for a number with a fraction
    rw [findings_eq_mapM hfound] at h
    obtain ⟨spans, hmem, hreport⟩ := exists_of_mapM_error h
    obtain ⟨a, ha, hsome⟩ := List.mem_filterMap.mp hmem
    obtain ⟨hstart, spans', hmatch⟩ := hscan.isMatch a ha
    obtain rfl := Option.some.inj (hsome.symm.trans hmatch.spans_eq)
    have hcovered : HaveTexts tokens a.start a.stop :=
      fun i k _ _ hk => htexts k (List.mem_of_getElem? hk)
    exact .inr (report_error hr hmatch hstart hcovered hreport)
  · unfold findings spans attempts at h
    rw [herr] at h
    obtain rfl := Except.error.inj h
    exact .inl hcase

theorem AreRulesOf.isConsistent {v : Value} {locale : Option Locale} {rules : List Rule}
    (h : AreRulesOf v locale rules) (hr : r ∈ rules) : r.IsConsistent := by
  obtain ⟨definitions, locale', -, -, hread⟩ := h.read
  obtain ⟨d, -, hrule⟩ := exists_of_mem_forall₂ hread hr
  obtain ⟨entries, elements, conversion, -, hmade⟩ := hrule.made
  exact hmade.isConsistent

/-- **Running a rule of a file.**  A rule that was read refers only to its elements, and it runs over every
sentence whose tokens have texts: it gives its findings, unless it reaches a case setting that is neither a
truth value nor the number of one, or counts an element by a number with a fraction. -/
theorem findings_of_listOfValue {v : Value} {locale : Option Locale} {rules : List Rule}
    (h : listOfValue v locale = .ok rules) (hr : r ∈ rules) (s : Sentence)
    (htexts : ∀ k ∈ s.tokens, k.text.isSome = true) :
    (∀ t ∈ r.message :: r.suggestions, RefersWithin r.elements.length t) ∧
      ((∃ found, (Copyedit.Rule.pattern r).findings s = .ok found) ∨
        (∃ setting ∈ r.caseSettings, ¬ ChoosesCase setting ∧
          (Copyedit.Rule.pattern r).findings s = .error (.key setting.quoted)) ∨
        ∃ x, (r.source = .real x ∨ r.sampleSource = .real x) ∧
          (Copyedit.Rule.pattern r).findings s = .error (.kind (.notPosition "float"))) := by
  have hconsistent := (areRulesOf_of_listOfValue h).isConsistent hr
  refine ⟨hconsistent.templates, ?_⟩
  cases hfindings : (Copyedit.Rule.pattern r).findings s with
  | ok found => exact .inl ⟨found, rfl⟩
  | error e =>
    rcases findings_error hconsistent htexts hfindings with ⟨setting, hsetting, hbad, rfl⟩ | ⟨x, hx, rfl⟩
    · exact .inr (.inl ⟨setting, hsetting, hbad, rfl⟩)
    · exact .inr (.inr ⟨x, hx, rfl⟩)

/-! ### Rules about one and about two words -/

section Examples

/-- An element that takes one token. -/
def one (demand : Demand) (wording : Option Wording) : Element where
  constraint := { demand, wording, tag := none }
  least := .int 1
  most := .int 1
  exceptions := []

/-- An element that demands a word as it is written. -/
def literal (word : Text) : Element :=
  one { token := some word } (some ⟨.ofLiteral word, .ofLiteral word true⟩)

/-- A rule about two words.  Message and suggestion refer to both, and the first one is suggested in the
casing of the second. -/
def twoWords : Value :=
  .list [.map [(.text "id", .text "R"), (.text "message", .text "\\1 \\2"),
    (.text "pattern", .list [.map [(.text "token", .text "a")], .map [(.text "token", .text "b")]]),
    (.text "suggestion_source", .int 1), (.text "sample_source", .int 2),
    (.text "case_conversion", .text "preserve"), (.text "suggestions", .list [.text "\\2 \\1"])]]

/-- The rule that it is read as. -/
def twoWordsRule : Rule where
  id := "R"
  elements := [literal ['a'], literal ['b']]
  message := "\\1 \\2".toList
  source := .int 1
  conversion := .preserve
  sample := none
  sampleSource := .int 2
  suggestions := ["\\2 \\1".toList]
  caseSensitive := .bool false
  shortMessage := .text ""
  description := .text ""
  locale := .english

/-- The sentence of these words, the second one being a capital. -/
def twoWordsSentence : Sentence where
  text := "a B".toList
  tokens := [{ text := some ['a'] }, { text := some ['B'], start := 2, spaceBefore := true }]

/-- The rule runs over it. -/
theorem findings_twoWords :
    listOfValue twoWords none = .ok [twoWordsRule] ∧
      (∀ k ∈ twoWordsSentence.tokens, k.text.isSome = true) ∧
      ∃ found, (Copyedit.Rule.pattern twoWordsRule).findings twoWordsSentence = .ok found ∧
        found.map (fun f => (f.message, f.suggestions)) = [("a B".toList, ["B A".toList])] := by
  have hread : listOfValue twoWords none = .ok [twoWordsRule] := by with_unfolding_all rfl
  have htexts : ∀ k ∈ twoWordsSentence.tokens, k.text.isSome = true := by decide
  refine ⟨hread, htexts, ?_⟩
  obtain ⟨-, ⟨found, hfound⟩ | ⟨setting, hsetting, hbad, -⟩ | ⟨x, hx, -⟩⟩ :=
    findings_of_listOfValue hread List.mem_cons_self twoWordsSentence htexts
  · have htold : ((Copyedit.Rule.pattern twoWordsRule).findings twoWordsSentence).toOption.map
        (List.map fun f => (f.message, f.suggestions)) = some [("a B".toList, ["B A".toList])] := by
      decide +kernel
    rw [hfound] at htold
    exact ⟨found, hfound, Option.some.inj htold⟩
  · -- its only case setting is a truth value
    have hfalse : setting = .bool false := by
      rcases List.mem_pair.mp hsetting with rfl | rfl <;> rfl
    exact absurd (hfalse ▸ choosesCase_bool false) hbad
  · rcases hx with hx | hx <;> cases hx

/-- A rule about a single word, whose case setting is neither a truth value nor a number. -/
def single : Value :=
  .list [.map [(.text "id", .text "R"), (.text "message", .text "m"),
    (.text "pattern", .list [.map [(.text "token", .text "a")]]),
    (.text "case_sensitive", .text "sometimes")]]

/-- The rule that it is read as. -/
def singleRule : Rule where
  id := "R"
  elements := [literal ['a']]
  message := ['m']
  source := .null
  conversion := .keep
  sample := none
  sampleSource := .null
  suggestions := []
  caseSensitive := .text "sometimes"
  shortMessage := .text ""
  description := .text ""
  locale := .english

/-- The sentence of that word alone. -/
def singleSentence : Sentence where
  text := ['a']
  tokens := [{ text := some ['a'] }]

/-- The setting stops the rule. -/
theorem findings_single_error :
    listOfValue single none = .ok [singleRule] ∧
      (∀ k ∈ singleSentence.tokens, k.text.isSome = true) ∧
      (Copyedit.Rule.pattern singleRule).findings singleSentence = .error (.key "'sometimes'") :=
  ⟨by with_unfolding_all rfl, by decide, rfl⟩

end Examples

end Rule

end Copyedit.Pattern
