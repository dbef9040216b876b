import Copyedit.Proofs.Pattern.Textless

/-!
# Expansion of templates

A template is written out in one pass (`Expands`): a character outside references stands for itself, and a
reference for a text, which is put in and not looked at again, even if it looks like a reference.  That is
what expanding a template gives, whenever it gives something (`expand_ok_iff`), and so a template has one
expansion at most (`Expands.unique`).

The main statement `Rule.report_expanded` says that what a match reports is made in this way.  Numbers count
elements from 1, and each element has a text, the empty one if it took no token.  In suggestions the source
stands in its new casing.  They are trimmed, and each that is not empty is given once, in the order in which
they first come.  A match is reported unless one of its tokens has no text, or a number with a fraction is
given for an element.
-/

namespace Copyedit.Pattern

/-! ### Templates -/

/-- A template is written out as a text.  A reference takes all digits behind its backslash; what is put in
for it stands in the result only, so it is never taken for a part of the template. -/
inductive Expands (text : Nat → Option Text) : Text → Text → Prop where
  /-- Nothing is left. -/
  | nil : Expands text [] []
  /-- A character that begins no reference stands for itself. -/
  | char {c : Char} {rest out : Text}
      (hplain : c = '\\' → ∀ d, rest.head? = some d → isDecimal d = false)
      (hrest : Expands text rest out) : Expands text (c :: rest) (c :: out)
  /-- A reference stands for the text of its number. -/
  | reference {digits rest put out : Text} (hne : digits ≠ [])
      (hdigits : ∀ d ∈ digits, isDecimal d = true) (hend : ∀ d, rest.head? = some d → isDecimal d = false)
      (hput : text (numberOf digits) = some put) (hrest : Expands text rest out) :
      Expands text ('\\' :: (digits ++ rest)) (put ++ out)

section Templates

variable {ε : Type} {text text' : Nat → Option Text} {get : Nat → Except ε Text} {c : Char}
  {digits rest t u v : Text}

theorem pieces_char (h : c = '\\' → ∀ d, rest.head? = some d → isDecimal d = false) :
    pieces (c :: rest) = .char c :: pieces rest := by
  have hnot : ¬ (c = '\\' ∧ rest.takeWhile isDecimal ≠ []) := by
    rintro ⟨hc, hne⟩
    have hnone : ([] ++ rest).takeWhile isDecimal = [] := takeWhile_append_eq nofun (h hc)
    exact hne hnone
  rw [pieces, if_neg hnot]

theorem pieces_reference (hne : digits ≠ []) (hdigits : ∀ d ∈ digits, isDecimal d = true)
    (hend : ∀ d, rest.head? = some d → isDecimal d = false) :
    pieces ('\\' :: (digits ++ rest)) = .reference digits :: pieces rest := by
  have htake := takeWhile_append_eq hdigits hend
  have hdrop := dropWhile_append_eq hdigits hend
  rw [pieces, htake, hdrop, if_pos ⟨rfl, hne⟩]

theorem references_char (h : c = '\\' → ∀ d, rest.head? = some d → isDecimal d = false) :
    references (c :: rest) = references rest := by
  unfold references
  rw [pieces_char h]
  rfl

theorem references_reference (hne : digits ≠ []) (hdigits : ∀ d ∈ digits, isDecimal d = true)
    (hend : ∀ d, rest.head? = some d → isDecimal d = false) :
    references ('\\' :: (digits ++ rest)) = digits :: references rest := by
  unfold references
  rw [pieces_reference hne hdigits hend]
  rfl

theorem expand_nil : expand get [] = .ok [] := by
  unfold expand
  rw [pieces]
  rfl

theorem expand_char (h : c = '\\' → ∀ d, rest.head? = some d → isDecimal d = false) :
    expand get (c :: rest) = expand get rest >>= fun out => pure (c :: out) := by
  unfold expand
  rw [pieces_char h, List.mapM_cons]
  cases (pieces rest).mapM (Piece.put get) <;> rfl

theorem expand_reference (hne : digits ≠ []) (hdigits : ∀ d ∈ digits, isDecimal d = true)
    (hend : ∀ d, rest.head? = some d → isDecimal d = false) :
    expand get ('\\' :: (digits ++ rest)) =
      get (numberOf digits) >>= fun put => expand get rest >>= fun out => pure (put ++ out) := by
  unfold expand
  rw [pieces_reference hne hdigits hend, List.mapM_cons, Piece.put]
  cases get (numberOf digits) with
  | error _ => rfl
  | ok _ => cases (pieces rest).mapM (Piece.put get) <;> rfl

/-- Expanding a template gives its expansion. -/
theorem expands_of_expand (h : expand get t = .ok u) : Expands (fun n => (get n).toOption) t u := by
  -- along the pieces of the template
  induction t using pieces.induct generalizing u with
  | case1 =>
    rw [expand_nil] at h
    obtain rfl := Except.ok.inj h
    exact .nil
  | case2 c rest hreference ih =>
    obtain ⟨rfl, hne⟩ := hreference
    -- the digits are taken as a whole, so that the rest begins with none
    have hdigits : ∀ d ∈ rest.takeWhile isDecimal, isDecimal d = true := fun d => List.mem_takeWhile_imp
    have hend : ∀ d, (rest.dropWhile isDecimal).head? = some d → isDecimal d = false := by
      intro d hd
      have hstop := List.head?_dropWhile_not isDecimal rest
      rw [hd] at hstop
      simpa using hstop
    have hsplit : rest.takeWhile isDecimal ++ rest.dropWhile isDecimal = rest :=
      List.takeWhile_append_dropWhile
    rw [← hsplit] at h ⊢
    rw [expand_reference hne hdigits hend] at h
    obtain ⟨put, hput, h⟩ := bind_ok_iff.mp h
    obtain ⟨out, hout, rfl⟩ := map_ok_iff.mp h
    refine .reference hne hdigits hend ?_ (ih hout)
    rw [hput]
    rfl
  | case3 c rest hnot ih =>
    have hplain : c = '\\' → ∀ d, rest.head? = some d → isDecimal d = false := by
      intro hc d hd
      by_contra hdigit
      refine hnot ⟨hc, ?_⟩
      obtain ⟨rest, rfl⟩ := List.head?_eq_some_iff.mp hd
      rw [List.takeWhile_cons_of_pos (by simpa using hdigit)]
      exact List.cons_ne_nil _ _
    rw [expand_char hplain] at h
    obtain ⟨out, hout, rfl⟩ := map_ok_iff.mp h
    exact .char hplain (ih hout)

/-- An expansion is what expanding the template gives. -/
theorem Expands.expand_eq (h : Expands (fun n => (get n).toOption) t u) : expand get t = .ok u := by
  induction h with
  | nil => exact expand_nil
  | char hplain _ ih =>
    rw [expand_char hplain, ih]
    rfl
  | @reference digits _ _ _ hne hdigits hend hput _ ih =>
    rw [expand_reference hne hdigits hend, ih]
    cases hget : get (numberOf digits) with
    | error e => cases hget ▸ hput
    | ok put' =>
      rw [hget] at hput
      obtain rfl := Option.some.inj hput
      rfl

theorem expand_ok_iff : expand get t = .ok u ↔ Expands (fun n => (get n).toOption) t u :=
  ⟨expands_of_expand, Expands.expand_eq⟩

theorem Expands.unique (hu : Expands text t u) (hv : Expands text t v) : u = v := by
  -- any texts are those of a computation that may fail, so expanding decides
  have htext : text = fun n => ((text n).elim (.error ()) .ok : Except Unit Text).toOption := by
    funext n
    cases text n <;> rfl
  rw [htext] at hu hv
  exact Except.ok.inj (hu.expand_eq.symm.trans hv.expand_eq)

/-- Only the texts to which the references lead matter. -/
theorem Expands.congr (h : Expands text t u)
    (hsame : ∀ digits ∈ references t, text (numberOf digits) = text' (numberOf digits)) :
    Expands text' t u := by
  induction h with
  | nil => exact .nil
  | char hplain _ ih =>
    rw [references_char hplain] at hsame
    exact .char hplain (ih hsame)
  | reference hne hdigits hend hput _ ih =>
    rw [references_reference hne hdigits hend] at hsame
    obtain ⟨hfirst, hrest⟩ := List.forall_mem_cons.mp hsame
    exact .reference hne hdigits hend (hfirst ▸ hput) (ih hrest)

end Templates

namespace Rule

/-! ### Texts of elements -/

/-- The text of the element with a number; elements are counted from 1. -/
def textOf (texts : List Text) : Nat → Option Text
  | 0 => none
  | n + 1 => texts[n]?

theorem toOption_itemAt (texts : List Text) (n : Nat) : (itemAt .items texts n).toOption = texts[n]? := by
  unfold itemAt
  dsimp only
  rw [if_neg (by omega), if_neg (by omega), Int.toNat_natCast]
  cases texts[n]? <;> rfl

/-- A reference from 1 on leads to the text of its element. -/
theorem toOption_referredText {texts : List Text} {n : Nat} (hone : 1 ≤ n) :
    (referredText texts n).toOption = textOf texts n := by
  obtain ⟨k, rfl⟩ := Nat.exists_eq_add_of_le' hone
  unfold referredText
  rw [show ((k + 1 : Nat) : Int) - 1 = (k : Nat) by omega]
  exact toOption_itemAt texts k

/-- A text is that of the element whose number is given. -/
def IsTextAt (texts : List Text) (v : Value) (t : Text) : Prop :=
  ∃ n : Nat, v.integer? = some (n : Int) ∧ textOf texts n = some t

theorem IsTextAt.unique {texts : List Text} {v : Value} {t u : Text} (ht : IsTextAt texts v t)
    (hu : IsTextAt texts v u) : t = u := by
  obtain ⟨n, hn, ht⟩ := ht
  obtain ⟨m, hm, hu⟩ := hu
  obtain rfl : n = m := Int.ofNat.inj (Option.some.inj (hn.symm.trans hm))
  exact Option.some.inj (ht.symm.trans hu)

theorem isTextAt_of_textAt {texts : List Text} {v : Value} {t : Text} (hv : IsNumberOf texts.length v)
    (hnull : v.isNull = false) (h : textAt texts v = .ok t) : IsTextAt texts v t := by
  rcases hv with rfl | ⟨n, hn, hone, hle⟩ | ⟨x, rfl⟩
  · cases hnull
  · obtain ⟨k, rfl⟩ := Int.eq_ofNat_of_zero_le (show 0 ≤ n by omega)
    refine ⟨k, hn, ?_⟩
    unfold textAt at h
    rw [hn] at h
    have hreferred : referredText texts k = .ok t := h
    rw [← toOption_referredText (by omega), hreferred]
    rfl
  · cases h

/-- A text is the sample: that of the sample's element unless it is empty, else the one that is given, else
that of the source. -/
inductive IsSample (r : Rule) (texts : List Text) : Text → Prop where
  /-- The text of the sample's element. -/
  | matched {t : Text} (htext : IsTextAt texts r.sampleSource t) (hne : t ≠ []) : IsSample r texts t
  /-- The sample that is given. -/
  | given {t : Text} (hempty : ∀ u, IsTextAt texts r.sampleSource u → u = []) (hsample : r.sample = some t) :
      IsSample r texts t
  /-- The text of the source. -/
  | source {t : Text} (hempty : ∀ u, IsTextAt texts r.sampleSource u → u = []) (hsample : r.sample = none)
      (htext : IsTextAt texts r.source t) : IsSample r texts t

/-- The text of the source in its new casing, if there is a source. -/
inductive IsConverted (r : Rule) (texts : List Text) : Option Text → Prop where
  /-- There is no source. -/
  | none (hsource : r.source = .null) : IsConverted r texts none
  /-- The casing of its text is converted after the sample. -/
  | some {t sample : Text} (htext : IsTextAt texts r.source t) (hsample : r.IsSample texts sample) :
      IsConverted r texts (some (r.locale.convert t r.conversion (some sample)))

/-- The text of an element in a suggestion: that of the source is in its new casing. -/
def suggestedOf (r : Rule) (texts : List Text) (source : Option Text) (n : Nat) : Option Text :=
  if r.source.integer? = some (n : Int) then source else textOf texts n

/-- What suggestions are made of: the expansions of the templates, or the source in its new casing if there
are no templates. -/
def AreMade (r : Rule) (texts : List Text) (source : Option Text) (made : List Text) : Prop :=
  (r.suggestions ≠ [] ∧ List.Forall₂ (Expands (r.suggestedOf texts source)) r.suggestions made) ∨
    (r.suggestions = [] ∧ made = source.toList)

/-- A finding tells the expansion of the message, and the suggestions once each. -/
structure Tells (r : Rule) (texts : List Text) (f : Finding) : Prop where
  /-- The message is expanded with the texts of the elements. -/
  message : Expands (textOf texts) r.message f.message
  /-- Suggestions are trimmed and not empty. -/
  suggestions : ∃ source made, r.IsConverted texts source ∧ r.AreMade texts source made ∧
    IsEachOnce ((made.map Text.trim).filter (!·.isEmpty)) f.suggestions

section Texts

variable {r : Rule} {texts : List Text} (hr : r.IsConsistent) (hlength : texts.length = r.elements.length)
include hr hlength

theorem isSample_of_sampleText {t : Text} (hsource : r.source.isNull = false)
    (h : r.sampleText texts = .ok t) : r.IsSample texts t := by
  have hnumber : IsNumberOf texts.length r.sampleSource := hlength ▸ hr.sampleSource
  unfold sampleText at h
  dsimp only at h
  rw [ite_bind_eq] at h
  obtain ⟨matched, hmatched, h⟩ := bind_ok_iff.mp h
  -- the text of the sample's element is `matched`, which is empty if there is no such element
  have helement : ∀ u, IsTextAt texts r.sampleSource u → u = matched := by
    intro u hu
    have hnull : r.sampleSource.isNull = false := by
      obtain ⟨n, hn, -⟩ := hu
      cases hv : r.sampleSource <;> rw [hv] at hn <;> first | rfl | cases hn
    rw [hnull] at hmatched
    exact hu.unique (isTextAt_of_textAt hnumber hnull hmatched)
  split at h
  · rename_i hne
    obtain rfl := Except.ok.inj h
    have hne' : matched ≠ [] := by simpa using hne
    split at hmatched
    · exact absurd (Except.ok.inj hmatched).symm hne'
    · rename_i hnull
      exact .matched (isTextAt_of_textAt hnumber (by simpa using hnull) hmatched) hne'
  · rename_i hmatched'
    have hempty : ∀ u, IsTextAt texts r.sampleSource u → u = [] := by
      intro u hu
      rw [helement u hu]
      simpa using hmatched'
    split at h
    · rename_i s hs
      obtain rfl := Except.ok.inj h
      exact .given hempty hs
    · rename_i hs
      exact .source hempty hs (isTextAt_of_textAt (hlength ▸ hr.source) hsource h)

theorem isConverted_of_converted {source : Option Text} (h : r.converted texts = .ok source) :
    r.IsConverted texts source := by
  unfold converted at h
  split at h
  · rename_i hnull
    obtain rfl := Except.ok.inj h
    have hsource : r.source = .null := by
      cases hv : r.source <;> rw [hv] at hnull <;> first | rfl | cases hnull
    exact .none hsource
  · rename_i hnull
    have hsource : r.source.isNull = false := by simpa using hnull
    obtain ⟨t, ht, h⟩ := bind_ok_iff.mp h
    obtain ⟨sample, hsample, rfl⟩ := map_ok_iff.mp h
    exact .some (isTextAt_of_textAt (hlength ▸ hr.source) hsource ht)
      (isSample_of_sampleText hr hlength hsource hsample)

omit hr hlength in
/-- A message is expanded with the texts of the elements. -/
theorem expands_of_expandWith_none {t u : Text} (ht : RefersWithin r.elements.length t)
    (h : r.expandWith texts none t = .ok u) : Expands (textOf texts) t u := by
  refine (expand_ok_iff.mp h).congr fun digits hdigits => ?_
  obtain ⟨-, hone, -⟩ := ht digits hdigits
  exact toOption_referredText hone

omit hr hlength in
/-- A suggestion is expanded with those texts, but for the source. -/
theorem expands_of_expandWith {source : Option Text} (hsource : r.IsConverted texts source) {t u : Text}
    (ht : RefersWithin r.elements.length t) (h : r.expandWith texts source t = .ok u) :
    Expands (r.suggestedOf texts source) t u := by
  refine (expand_ok_iff.mp h).congr fun digits hdigits => ?_
  -- the number of the source is compared as a key, which for a number in range is equality of integers
  obtain ⟨-, hone, -⟩ := ht digits hdigits
  have htext : (referredText texts (numberOf digits)).toOption = textOf texts (numberOf digits) :=
    toOption_referredText hone
  unfold suggestedOf
  cases hsource with
  | none hnull =>
    rw [hnull, if_neg nofun]
    exact htext
  | some htextAt _ =>
    obtain ⟨n, hnumber, -⟩ := htextAt
    have hsame : r.source.sameKey (.int (numberOf digits)) = true ↔
        r.source.integer? = some (numberOf digits : Int) := by
      cases hv : r.source <;> rw [hv] at hnumber <;> first | cases hnumber | skip
      all_goals simp [Value.sameKey, Value.integer?]
    dsimp only
    by_cases h : r.source.integer? = some (numberOf digits : Int)
    · rw [if_pos h, if_pos (hsame.mpr h)]
      rfl
    · rw [if_neg h, if_neg (mt hsame.mp h)]
      exact htext

theorem suggestionsFor_ok {suggestions : List Text} (h : r.suggestionsFor texts = .ok suggestions) :
    ∃ source made, r.IsConverted texts source ∧ r.AreMade texts source made ∧
      IsEachOnce ((made.map Text.trim).filter (!·.isEmpty)) suggestions := by
  unfold suggestionsFor at h
  obtain ⟨source, hsource, h⟩ := bind_ok_iff.mp h
  have hconverted := isConverted_of_converted hr hlength hsource
  dsimp only at h
  rw [ite_bind_eq] at h
  obtain ⟨made, hmade, rfl⟩ := map_ok_iff.mp h
  refine ⟨source, made, hconverted, ?_, distinct_isEachOnce _⟩
  split at hmade
  · rename_i hempty
    exact .inr ⟨List.isEmpty_iff.mp hempty, (Except.ok.inj hmade).symm⟩
  · rename_i hgiven
    refine .inl ⟨by simpa using hgiven, ?_⟩
    have hwithin : ∀ t ∈ r.suggestions, RefersWithin r.elements.length t :=
      fun t ht => hr.templates t (List.mem_cons_of_mem _ ht)
    have hboth := (List.forall₂_and_left _ _).mpr ⟨hwithin, mapM_ok_iff.mp hmade⟩
    exact hboth.imp fun t u ⟨ht, hu⟩ => expands_of_expandWith hconverted ht hu

end Texts

/-! ### Reports -/

variable {d : Definition} {r : Rule} {tokens : List Token}

theorem report_tells (hr : r.IsConsistent) {a : Attempt} {spans : List Span}
    (ha : r.IsMatch tokens a spans) {f : Finding} (h : r.report tokens spans = .ok f) :
    ∃ texts, List.Forall₂ (fun s t => surfaceText (stretch tokens s.first s.stop) = .ok t) spans texts ∧
      r.Tells texts f := by
  obtain ⟨texts, hreports⟩ := reports_of_report h
  have hall := mapM_ok_iff.mp hreports.texts_eq
  have hlength : texts.length = r.elements.length := by
    rw [← hall.length_eq, ha.length_eq]
  have hmessage : Expands (textOf texts) r.message f.message :=
    expands_of_expandWith_none (hr.templates r.message List.mem_cons_self) hreports.message_eq
  exact ⟨texts, hall, hmessage, suggestionsFor_ok hr hlength hreports.suggestions_eq⟩

/-- **Expansion.**  Let a rule be made from a definition.  Each match of it, which has one span for each
element, is reported with the expansions of its templates, unless a token of the match has no text, or a
number with a fraction counts the elements for the source or its sample. -/
theorem report_expanded (hmake : make d = .ok r) {all : List (List Span)} (hall : r.spans tokens = .ok all) :
    ∀ spans ∈ all, spans.length = r.elements.length ∧
      ((∃ texts f, List.Forall₂ (fun s t => surfaceText (stretch tokens s.first s.stop) = .ok t) spans texts ∧
          r.report tokens spans = .ok f ∧ r.Tells texts f) ∨
        ((∃ s ∈ spans, ∃ k ∈ stretch tokens s.first s.stop, k.text = none) ∧
          ∃ i, r.report tokens spans = .error (.kind (.notJoinable i "NoneType"))) ∨
        ∃ x, (r.source = .real x ∨ r.sampleSource = .real x) ∧
          r.report tokens spans = .error (.kind (.notPosition "float"))) := by
  intro spans hspans
  have hr := (isMadeFrom_of_make hmake).isConsistent
  obtain ⟨found, hfound, rfl⟩ := map_ok_iff.mp hall
  obtain ⟨a, ha, hsome⟩ := List.mem_filterMap.mp hspans
  obtain ⟨hstart, spans', hmatch⟩ := (attempts_isScanFrom hfound).isMatch a ha
  obtain rfl := Option.some.inj (hsome.symm.trans hmatch.spans_eq)
  refine ⟨hmatch.length_eq, ?_⟩
  by_cases htexts : HaveTexts tokens a.start a.stop
  · cases hreport : r.report tokens spans with
    | ok f =>
      obtain ⟨texts, hsurface, htells⟩ := report_tells hr hmatch hreport
      exact .inl ⟨texts, f, hsurface, rfl, htells⟩
    | error e =>
      obtain ⟨x, hx, rfl⟩ := report_error hr hmatch hstart htexts hreport
      exact .inr (.inr ⟨x, hx, rfl⟩)
  · obtain ⟨i, hreport⟩ := report_of_not_haveTexts hmatch hstart htexts
    rw [hmatch.haveTexts_iff hstart] at htexts
    push Not at htexts
    obtain ⟨s, hs, k, hk, hnone⟩ := htexts
    exact .inr (.inl ⟨⟨s, hs, k, hk, by simpa using hnone⟩, i, hreport⟩)

/-! ### Texts that look like references -/

section Examples

/-- A definition whose first element demands a text that looks like a reference to the second. -/
def quoting : Definition where
  id := "R"
  elements := [literal "\\2".toList, literal "b".toList]
  message := .text "\\1\\2"
  source := .int 2
  conversion := .allUpper
  suggestions := .list [.text " \\1\\2", .text "\\1\\2 ", .text "", .text "\\2"]
  caseSensitive := .bool true

/-- The rule that it makes. -/
def quotingRule : Rule :=
  { quoting with
    message := "\\1\\2".toList
    sample := none
    suggestions := [" \\1\\2".toList, "\\1\\2 ".toList, [], "\\2".toList] }

/-- Tokens that it matches. -/
def quotingTokens : List Token :=
  [{ text := some "\\2".toList }, { text := some "b".toList, start := 2, spaceBefore := false }]

/-- The text that looks like a reference is put in as it is. -/
theorem report_quoting : make quoting = .ok quotingRule ∧
    quotingRule.spans quotingTokens = .ok [[⟨0, 1⟩, ⟨1, 2⟩]] ∧
    ∃ f, quotingRule.report quotingTokens [⟨0, 1⟩, ⟨1, 2⟩] = .ok f ∧ f.message = "\\2b".toList ∧
      f.suggestions = ["\\2B".toList, "B".toList] := by
  have hmake : make quoting = .ok quotingRule := by with_unfolding_all rfl
  have hspans : quotingRule.spans quotingTokens = .ok [[⟨0, 1⟩, ⟨1, 2⟩]] := by with_unfolding_all rfl
  refine ⟨hmake, hspans, ?_⟩
  obtain ⟨-, ⟨texts, f, -, hf, -⟩ | ⟨⟨s, hs, k, hk, hnone⟩, -⟩ | ⟨x, hx, -⟩⟩ :=
    report_expanded hmake hspans _ List.mem_cons_self
  · have htold : (quotingRule.report quotingTokens [⟨0, 1⟩, ⟨1, 2⟩]).toOption.map
        (fun f => (f.message, f.suggestions)) = some ("\\2b".toList, ["\\2B".toList, "B".toList]) := by
      decide +kernel
    rw [hf] at htold
    obtain ⟨hmessage, hsuggestions⟩ := Prod.mk.inj (Option.some.inj htold)
    exact ⟨f, hf, hmessage, hsuggestions⟩
  · have hall : ∀ k ∈ quotingTokens, k.text ≠ none := by decide
    have hmem : ∀ s ∈ ([⟨0, 1⟩, ⟨1, 2⟩] : List Span), ∀ k ∈ stretch quotingTokens s.first s.stop,
        k ∈ quotingTokens := by decide
    exact absurd hnone (hall k (hmem s hs k hk))
  · rcases hx with hx | hx <;> cases hx

/-- A definition whose first element demands no text, and whose message refers to the second. -/
def baseThenWord : Definition where
  id := "R"
  elements := [one { base := .text "x" } none, literal "b".toList]
  message := .text "\\2"
  caseSensitive := .bool true

/-- A match may not be reported although the rule is made: its first token has no text. -/
theorem exists_report_error : ∃ r tokens all, make baseThenWord = .ok r ∧ baseThenWord.IsTyped ∧
    r.spans tokens = .ok all ∧ ∃ spans ∈ all, ¬ ∃ f, r.report tokens spans = .ok f := by
  have hbase : Element.IsTyped (one { base := .text "x" } none) :=
    isTyped_one ⟨⟨false, rfl⟩, .inl rfl, .inr ⟨"x", rfl⟩, ⟨false, rfl⟩, .inl rfl⟩ none
  have hword : Element.IsTyped (literal "b".toList) :=
    isTyped_one ⟨⟨false, rfl⟩, .inl rfl, .inl rfl, ⟨false, rfl⟩, .inl rfl⟩ _
  have htyped : baseThenWord.IsTyped :=
    { elements := List.forall_mem_cons.mpr ⟨hbase, List.forall_mem_singleton.mpr hword⟩
      message := ⟨_, rfl⟩
      source := .inl rfl
      sample := .inl rfl
      sampleSource := .inl rfl
      suggestions := ⟨[], rfl, List.forall_mem_nil _⟩
      caseSensitive := ⟨true, rfl⟩ }
  refine ⟨{ baseThenWord with message := "\\2".toList, sample := none, suggestions := [] },
    [{ text := none, readings := [⟨some ['x'], none⟩] }, { text := some ['b'], start := 2 }],
    [[⟨0, 1⟩, ⟨1, 2⟩]], by with_unfolding_all rfl, htyped, by with_unfolding_all rfl, _, List.mem_cons_self,
    ?_⟩
  rintro ⟨f, h⟩
  cases h

end Examples

end Rule

end Copyedit.Pattern
