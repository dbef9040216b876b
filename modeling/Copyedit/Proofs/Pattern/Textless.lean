import Copyedit.Proofs.Pattern.Run

/-!
# Tokens without texts

A token from outside may have no text.  A rule whose parts are of the kinds that are meant for them still
scans all tokens, as a test that needs the text counts as "not accepted".  An element that demands no text
may accept such a token, though, and then the match cannot be reported, since the text of a match is put
together from those of its tokens.

So the rule gives its findings iff all tokens of its matches have texts, as they do where each of its
elements demands one (`Rule.findings_textless`); a rule on tags alone may fail
(`Rule.exists_findings_error`).
-/

namespace Copyedit.Pattern

variable {e : Error}

/-! ### Definitions of the right kinds -/

/-- Whether all parts of an element are of the kinds that are meant for them. -/
structure Element.IsTyped (e : Element) : Prop where
  /-- Its demand is. -/
  demand : e.constraint.demand.IsTyped
  /-- Its lower bound is an integer. -/
  least : ∃ n, e.least.integer? = some n
  /-- So is its upper bound. -/
  most : ∃ n, e.most.integer? = some n
  /-- The demands of its exceptions are of the kinds that are meant for them. -/
  exceptions : ∀ x ∈ e.exceptions, x.constraint.demand.IsTyped

/-- Whether all parts of a definition are of the kinds that are meant for them. -/
structure Definition.IsTyped (d : Definition) : Prop where
  /-- Those of its elements are. -/
  elements : ∀ e ∈ d.elements, e.IsTyped
  /-- The message is a text. -/
  message : ∃ s, d.message = .text s
  /-- The number of the source is an integer, if there is one. -/
  source : d.source = .null ∨ ∃ n, d.source.integer? = some n
  /-- The sample is a text, if there is one. -/
  sample : d.sample = .null ∨ ∃ s, d.sample = .text s
  /-- The number of the sample's source is an integer, if there is one. -/
  sampleSource : d.sampleSource = .null ∨ ∃ n, d.sampleSource.integer? = some n
  /-- The suggestions are texts. -/
  suggestions : ∃ items, Rule.itemsOf d.suggestions = .ok items ∧ ∀ v ∈ items, ∃ s, v = .text s
  /-- The case setting is a truth value. -/
  caseSensitive : ∃ b, d.caseSensitive = .bool b

/-- The case setting of a constraint that says nothing else than whether case matters. -/
theorem Constraint.exists_caseSetting_eq {c : Constraint} (hc : c.demand.IsTyped) {default : Value}
    (hdefault : ∃ b, default = .bool b) : ∃ b, c.caseSetting default = .bool b := by
  obtain ⟨-, -, -, -, hnull | ⟨b, hb⟩⟩ := hc
  · unfold caseSetting
    rw [hnull]
    exact hdefault
  · unfold caseSetting
    rw [hb]
    exact ⟨b, rfl⟩

theorem Constraint.choosesCase_of_mem {c : Constraint} (hc : c.demand.IsTyped) {default v : Value}
    (hdefault : ∃ b, default = .bool b) (hv : v ∈ c.caseSettings default) : ChoosesCase v := by
  unfold caseSettings at hv
  split at hv
  · obtain ⟨b, hb⟩ := exists_caseSetting_eq hc hdefault
    rw [List.mem_singleton.mp hv, hb]
    exact choosesCase_bool b
  · cases hv

namespace Rule

variable {d : Definition} {r : Rule} {tokens : List Token}

/-- No case setting of such a rule stops a match. -/
theorem choosesCase_of_isTyped (hd : d.IsTyped) (h : IsMadeFrom d r) :
    ∀ v ∈ r.caseSettings, ChoosesCase v := by
  have helements : r.elements = d.elements := congrArg Rule.elements h.rule_eq
  have hcase : r.caseSensitive = d.caseSensitive := congrArg Rule.caseSensitive h.rule_eq
  intro v hv
  unfold caseSettings at hv
  rw [helements, hcase] at hv
  obtain ⟨e, he, hv⟩ := List.mem_flatMap.mp hv
  have htyped := hd.elements e he
  rcases List.mem_append.mp hv with hv | hv
  · exact Constraint.choosesCase_of_mem htyped.demand hd.caseSensitive hv
  · obtain ⟨x, hx, hv⟩ := List.mem_flatMap.mp hv
    have hsetting := Constraint.exists_caseSetting_eq htyped.demand hd.caseSensitive
    exact Constraint.choosesCase_of_mem (htyped.exceptions x hx) hsetting hv

/-- Nor does such a rule count elements by numbers with fractions. -/
theorem not_isFractionFailure_of_isTyped (hd : d.IsTyped) (h : IsMadeFrom d r) :
    ¬ r.IsFractionFailure e := by
  have hsource : r.source = d.source := congrArg Rule.source h.rule_eq
  have hsampleSource : r.sampleSource = d.sampleSource := congrArg Rule.sampleSource h.rule_eq
  have hnot : ∀ {v : Value} {x : Float}, (v = .null ∨ ∃ n, v.integer? = some n) → v ≠ .real x := by
    rintro v x h rfl
    rcases h with h | ⟨n, h⟩ <;> cases h
  rintro ⟨x, hx | hx, -⟩
  · exact hnot hd.source (hsource ▸ hx)
  · exact hnot hd.sampleSource (hsampleSource ▸ hx)

/-! ### Matches -/

/-- The demand of a text cannot be tested on a token without one. -/
theorem test_ne_ok {c : Constraint} (hc : c.wording.isSome = true) {k : Token} (hk : k.text = none)
    {default : Value} {b : Bool} : c.test k default ≠ .ok b := by
  intro h
  obtain ⟨held, hholds, -⟩ := bind_ok_iff.mp h
  obtain ⟨worded, hworded, -⟩ := bind_ok_iff.mp hholds
  obtain ⟨w, hw⟩ := Option.isSome_iff_exists.mp hc
  unfold Constraint.hasWording at hworded
  simp only [hw, hk] at hworded
  obtain ⟨regex, -, hthrow⟩ := bind_ok_iff.mp hworded
  cases hthrow

/-- An element that demands a text accepts only tokens with one. -/
theorem isSome_text_of_accepts {e : Element} (he : e.constraint.wording.isSome = true) {p : Int}
    (hp : 0 ≤ p) (h : r.accepts tokens e p = .ok true) {k : Token} (hk : tokens[p.toNat]? = some k) :
    k.text.isSome = true := by
  unfold accepts tolerant at h
  split at h
  · rename_i b haccepts
    obtain ⟨k', hk', htest⟩ := bind_ok_iff.mp haccepts
    obtain ⟨b', htest, -⟩ := bind_ok_iff.mp htest
    obtain rfl : k = k' := Option.some.inj (hk.symm.trans (getElem?_of_itemAt hp hk'))
    by_contra hnone
    rw [Option.not_isSome_iff_eq_none] at hnone
    exact test_ne_ok he hnone htest
  · split at h <;> cases h

theorem haveTexts_of_wording (hall : ∀ e ∈ r.elements, e.constraint.wording.isSome = true)
    {a : Attempt} {spans : List Span} (ha : r.IsMatch tokens a spans) :
    HaveTexts tokens a.start a.stop := by
  intro i k hle hlt hget
  obtain ⟨e, he, -, -, haccepts, -⟩ := ha.parses.exists_span hle (ha.stop_eq ▸ hlt)
  exact isSome_text_of_accepts (hall e he) (by omega) haccepts hget

/-! ### Findings -/

/-- What a finding says of the tokens of a match. -/
def IsReportOf (a : Attempt) (f : Finding) : Prop := f.firstToken = a.start ∧ f.endToken = a.stop

section Typed

variable (hr : r.IsConsistent) (hnot : ∀ e, ¬ r.IsFractionFailure e)
include hr hnot

/-- A match is reported iff its tokens have texts. -/
theorem report_cases {a : Attempt} {spans : List Span} (ha : r.IsMatch tokens a spans)
    (hstart : 0 ≤ a.start) :
    (HaveTexts tokens a.start a.stop ∧ ∃ f, r.report tokens spans = .ok f ∧ IsReportOf a f) ∨
      (¬ HaveTexts tokens a.start a.stop ∧
        ∃ i, r.report tokens spans = .error (.kind (.notJoinable i "NoneType"))) := by
  by_cases htexts : HaveTexts tokens a.start a.stop
  · left
    cases hreport : r.report tokens spans with
    | error e => exact absurd (report_error hr ha hstart htexts hreport) (hnot e)
    | ok f =>
      obtain ⟨hfirst, hlast⟩ := ha.ends
      obtain ⟨texts, hreports⟩ := reports_of_report hreport
      exact ⟨htexts, f, rfl, hreports.firstToken_eq.trans hfirst, hreports.endToken_eq.trans hlast⟩
  · exact .inr ⟨htexts, report_of_not_haveTexts ha hstart htexts⟩

/-- All matches are reported, or one of them has a token without a text. -/
theorem mapM_report_cases {found : List Attempt}
    (hfound : ∀ a ∈ found, 0 ≤ a.start ∧ ∃ spans, r.IsMatch tokens a spans) :
    ((∀ a ∈ found, HaveTexts tokens a.start a.stop) ∧
        ∃ fs, (found.filterMap (·.spans)).mapM (r.report tokens) = .ok fs ∧
          List.Forall₂ IsReportOf found fs) ∨
      ((∃ a ∈ found, ¬ HaveTexts tokens a.start a.stop) ∧
        ∃ i, (found.filterMap (·.spans)).mapM (r.report tokens) =
          .error (.kind (.notJoinable i "NoneType"))) := by
  induction found with
  | nil => exact .inl ⟨nofun, [], rfl, .nil⟩
  | cons a rest ih =>
    obtain ⟨⟨hstart, spans, ha⟩, hrest⟩ := List.forall_mem_cons.mp hfound
    rw [List.filterMap_cons_some ha.spans_eq, List.mapM_cons]
    rcases report_cases hr hnot ha hstart with ⟨htexts, f, hf, hreport⟩ | ⟨hmissing, i, hi⟩
    · rw [hf]
      rcases ih hrest with ⟨htexts', fs, hfs, hreports⟩ | ⟨⟨b, hb, hmissing⟩, i, hi⟩
      · left
        refine ⟨List.forall_mem_cons.mpr ⟨htexts, htexts'⟩, f :: fs, ?_, .cons hreport hreports⟩
        rw [hfs]
        rfl
      · right
        refine ⟨⟨b, List.mem_cons_of_mem a hb, hmissing⟩, i, ?_⟩
        rw [hi]
        rfl
    · right
      refine ⟨⟨a, List.mem_cons_self, hmissing⟩, i, ?_⟩
      rw [hi]
      rfl

end Typed

/-- **Tokens without texts.**  Let a rule be made from a definition whose parts are of the kinds that are
meant for them.  Over all tokens, with or without texts, it finds its matches.  If all tokens of the matches
have texts, it gives a finding for each match, in order; if not, it fails, as the text of a match cannot be
put together.  Where all its elements demand a text, the tokens of its matches have texts. -/
theorem findings_textless (hd : d.IsTyped) (hmake : make d = .ok r) (tokens : List Token) :
    ∃ found, r.attempts tokens = .ok found ∧
      (((∀ a ∈ found, HaveTexts tokens a.start a.stop) ∧
          ∃ fs, r.findings tokens = .ok fs ∧ List.Forall₂ IsReportOf found fs) ∨
        ((∃ a ∈ found, ¬ HaveTexts tokens a.start a.stop) ∧
          ∃ i, r.findings tokens = .error (.kind (.notJoinable i "NoneType")))) ∧
      ((∀ e ∈ r.elements, e.constraint.wording.isSome = true) →
        ∀ a ∈ found, HaveTexts tokens a.start a.stop) := by
  have hmade := isMadeFrom_of_make hmake
  rcases @attemptsFrom_spec r tokens tokens.length 0 (Int.le_refl 0) (by omega) with
    ⟨found, hfound, hscan⟩ | ⟨err, -, v, hv, hbad, -⟩
  · refine ⟨found, hfound, ?_, fun hall a ha => ?_⟩
    · rw [findings_eq_mapM hfound]
      exact mapM_report_cases hmade.isConsistent
        (fun e => not_isFractionFailure_of_isTyped hd hmade) hscan.isMatch
    · obtain ⟨-, spans, hmatch⟩ := hscan.isMatch a ha
      exact haveTexts_of_wording hall hmatch
  · exact absurd (choosesCase_of_isTyped hd hmade v hv) hbad

/-! ### A token without a text -/

section Examples

/-- A definition with one demand. -/
def ofDemand (demand : Demand) (wording : Option Wording) : Definition where
  id := "R"
  elements := [one demand wording]
  message := .text "m"
  caseSensitive := .bool true

theorem isTyped_one {demand : Demand} (h : demand.IsTyped) (wording : Option Wording) :
    (one demand wording).IsTyped where
  demand := h
  least := ⟨1, rfl⟩
  most := ⟨1, rfl⟩
  exceptions := List.forall_mem_nil _

theorem isTyped_ofDemand {demand : Demand} (h : demand.IsTyped) (wording : Option Wording) :
    (ofDemand demand wording).IsTyped where
  elements := List.forall_mem_singleton.mpr (isTyped_one h wording)
  message := ⟨"m", rfl⟩
  source := .inl rfl
  sample := .inl rfl
  sampleSource := .inl rfl
  suggestions := ⟨[], rfl, List.forall_mem_nil _⟩
  caseSensitive := ⟨true, rfl⟩

/-- A token without a text, and then the word that the rule demands. -/
def textlessThenWord : List Token := [{ text := none }, { text := some ['a'], start := 5 }]

/-- A definition that demands the word. -/
def demandsWord : Definition :=
  ofDemand { token := some ['a'] } (some ⟨.ofLiteral ['a'], .ofLiteral ['a'] true⟩)

/-- The rule that it makes. -/
def demandsWordRule : Rule := { singleRule with caseSensitive := .bool true }

/-- A rule that demands the word passes over the token without a text. -/
theorem findings_textlessThenWord : demandsWord.IsTyped ∧
    make demandsWord = .ok demandsWordRule ∧
    ∃ fs, demandsWordRule.findings textlessThenWord = .ok fs := by
  have htyped : demandsWord.IsTyped :=
    isTyped_ofDemand ⟨⟨false, rfl⟩, .inl rfl, .inl rfl, ⟨false, rfl⟩, .inl rfl⟩ _
  have hmake : make demandsWord = .ok demandsWordRule := by with_unfolding_all rfl
  obtain ⟨found, -, hfindings, htexts⟩ := findings_textless htyped hmake textlessThenWord
  have hall := htexts (List.forall_mem_singleton.mpr rfl)
  refine ⟨htyped, hmake, ?_⟩
  rcases hfindings with ⟨-, fs, hfs, -⟩ | ⟨⟨a, ha, hmissing⟩, -⟩
  · exact ⟨fs, hfs⟩
  · exact absurd (hall a ha) hmissing

/-- A rule may be stopped by a token without a text, although all its parts are of the kinds that are meant
for them. -/
theorem exists_findings_error : ∃ e d r tokens, Element.make { base := .text "x" } = .ok e ∧
    d.elements = [e] ∧ d.IsTyped ∧ make d = .ok r ∧ ¬ ∃ fs, r.findings tokens = .ok fs := by
  have htyped : (ofDemand { base := .text "x" } none).IsTyped :=
    isTyped_ofDemand ⟨⟨false, rfl⟩, .inl rfl, .inr ⟨"x", rfl⟩, ⟨false, rfl⟩, .inl rfl⟩ _
  refine ⟨_, _, _, [{ text := none, readings := [⟨some ['x'], none⟩] }], rfl, rfl, htyped,
    make_plain (by rfl) (by rfl) ?_, ?_⟩
  · simp [references, pieces]
  · rintro ⟨fs, h⟩
    cases h

end Examples

end Rule

end Copyedit.Pattern
