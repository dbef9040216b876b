import Copyedit.Proofs.Pattern.Scan
import Copyedit.Proofs.Sentence.Placement

/-!
# What a pattern rule reports

What a report says is read off once (`Rule.reports_of_report`).  A match takes a token at least, and its spans
follow each other, so what it reports goes from its first token to its last (`Rule.report_spans`); none is
skipped to either side, even where elements at an end take no token.
-/

namespace Copyedit.Pattern

namespace Rule

variable {r : Rule} {tokens : List Token}

theorem attempts_isScanFrom {found : List Attempt} (h : r.attempts tokens = .ok found) :
    r.IsScanFrom tokens 0 found := by
  rcases @attemptsFrom_spec r tokens tokens.length 0 (Int.le_refl 0) (by omega) with
    ⟨found', hfound, hscan⟩ | ⟨err, herr, -⟩
  · rw [Except.ok.inj (h.symm.trans hfound)]
    exact hscan
  · cases h.symm.trans herr

theorem Parses.first_eq {accepts : Element → Int → Except Error Bool} {es : List Element} {p : Int}
    {s : Span} {spans : List Span} (h : Parses accepts es p (s :: spans)) : s.first = p := by
  cases h
  rfl

/-- The first span begins where the match does, and the last one ends there. -/
theorem IsMatch.ends {a : Attempt} {spans : List Span} (ha : r.IsMatch tokens a spans) :
    (spans.head?.map (·.first)).getD 0 = a.start ∧ (spans.getLast?.map (·.stop)).getD 0 = a.stop := by
  have hextent := ha.extent
  have hstop := ha.stop_eq
  cases spans with
  | nil =>
    -- a match without spans would take no token
    rw [endOf_nil] at hstop
    omega
  | cons s rest =>
    refine ⟨Parses.first_eq ha.parses, ?_⟩
    unfold endOf at hstop
    rw [List.getLast?_eq_some_getLast (List.cons_ne_nil s rest)] at hstop ⊢
    exact hstop

/-- A finding tells spans of tokens whose texts are given. -/
structure Reports (r : Rule) (tokens : List Token) (spans : List Span) (texts : List Text) (f : Finding) :
    Prop where
  /-- The texts are those of the spans. -/
  texts_eq : (spans.mapM fun s => surfaceText (stretch tokens s.first s.stop)) = .ok texts
  /-- The rule is named. -/
  rule_eq : f.rule = r.id
  /-- The message is expanded with the texts. -/
  message_eq : r.expandWith texts none r.message = .ok f.message
  /-- So are the suggestions. -/
  suggestions_eq : r.suggestionsFor texts = .ok f.suggestions
  /-- It begins with the first span. -/
  firstToken_eq : f.firstToken = (spans.head?.map (·.first)).getD 0
  /-- It ends with the last one. -/
  endToken_eq : f.endToken = (spans.getLast?.map (·.stop)).getD 0
  /-- It begins where its first token does. -/
  start_eq : ∃ k, Element.tokenAt tokens f.firstToken = .ok k ∧ f.start = k.start
  /-- It ends where its last token does. -/
  stop_eq : ∃ k, Element.tokenAt tokens (f.endToken - 1) = .ok k ∧ k.stop = .ok f.stop

theorem reports_of_report {spans : List Span} {f : Finding} (h : r.report tokens spans = .ok f) :
    ∃ texts, r.Reports tokens spans texts f := by
  unfold report at h
  obtain ⟨texts, htexts, h⟩ := bind_ok_iff.mp h
  obtain ⟨message, hmessage, h⟩ := bind_ok_iff.mp h
  obtain ⟨firstToken, hfirstToken, h⟩ := bind_ok_iff.mp h
  obtain ⟨lastToken, hlastToken, h⟩ := bind_ok_iff.mp h
  obtain ⟨stop, hstop, h⟩ := bind_ok_iff.mp h
  obtain ⟨suggestions, hsuggestions, rfl⟩ := map_ok_iff.mp h
  exact ⟨texts, htexts, rfl, hmessage, hsuggestions, rfl, rfl, ⟨firstToken, hfirstToken, rfl⟩,
    ⟨lastToken, hlastToken, hstop⟩⟩

/-- A match reports the stretch from its first token to its last. -/
theorem report_spans {a : Attempt} {spans : List Span} (ha : r.IsMatch tokens a spans)
    (hstart : 0 ≤ a.start) {f : Finding} (h : r.report tokens spans = .ok f) : f.Spans tokens := by
  have hextent := ha.extent
  obtain ⟨hfirst, hlast⟩ := ha.ends
  obtain ⟨texts, hreports⟩ := reports_of_report h
  obtain ⟨firstToken, hfirstToken, hstart_eq⟩ := hreports.start_eq
  obtain ⟨lastToken, hlastToken, hstop⟩ := hreports.stop_eq
  rw [hreports.firstToken_eq, hfirst] at hfirstToken
  rw [hreports.endToken_eq, hlast] at hlastToken
  exact ⟨a.start.toNat, (a.stop - 1).toNat, firstToken, lastToken, by omega,
    getElem?_of_itemAt hstart hfirstToken, getElem?_of_itemAt (by omega) hlastToken, hstart_eq, hstop⟩

/-- Each match that is found is reported. -/
theorem findings_eq_mapM {found : List Attempt} (h : r.attempts tokens = .ok found) :
    r.findings tokens = (found.filterMap (·.spans)).mapM (r.report tokens) := by
  unfold findings spans
  rw [h]
  rfl

theorem findings_spans {found : List Finding} (h : r.findings tokens = .ok found) :
    ∀ f ∈ found, f.Spans tokens := by
  intro f hf
  obtain ⟨spans, hspans, h⟩ := bind_ok_iff.mp h
  obtain ⟨attempts, hattempts, rfl⟩ := map_ok_iff.mp hspans
  obtain ⟨matched, hmatched, hreport⟩ := exists_of_mem_mapM h hf
  obtain ⟨a, ha, hsome⟩ := List.mem_filterMap.mp hmatched
  obtain ⟨hstart, spans, hmatch⟩ := (attempts_isScanFrom hattempts).isMatch a ha
  obtain rfl := Option.some.inj (hsome.symm.trans hmatch.spans_eq)
  exact report_spans hmatch hstart hreport

end Rule

end Copyedit.Pattern
