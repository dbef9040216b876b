import Copyedit.Proofs.Casing
import Copyedit.Proofs.Spelling.Speller

/-!
# Accepted capitals

A speller over a word list of lower-case ASCII words that converts case accepts each word as it is
listed, in upper case, and with its first letter in upper case, and of the words of ASCII letters
nothing else (`isKnown_iff_of_isAsciiLetter`).

The last form is the capitalized word but for the Dutch digraph: undoing a capital looks at the first
character only, so that of "ijsselmeer" the speller accepts "Ijsselmeer" and reports "IJsselmeer"
(`isKnown_forms`, `exists_capitalize_misspelled`).
-/

namespace Copyedit

/-- Whether all characters are lower-case ASCII letters. -/
def Text.IsAsciiLower (t : Text) : Prop := ∀ c ∈ t, isAsciiLower c = true

namespace Spelling.Speller

open Copyedit.Locale

variable {l : Locale} {v w q : Text}

/-! ### Variants -/

theorem mem_caseVariants_iff :
    q ∈ caseVariants l w ↔ q ≠ w ∧
      (w.isAllUpper = true ∧ (q = l.lower w ∨ q = l.capitalize (l.lower w)) ∨
        w.isAllUpper = false ∧ w.startsUpper = true ∧ q = l.uncapitalize w) := by
  rw [caseVariants, List.mem_filter, decide_eq_true_eq, and_comm]
  refine and_congr_right fun _ => ?_
  cases w.isAllUpper <;> cases w.startsUpper <;> simp

/-- What starts with a capital is not in lower case. -/
theorem ne_cons_of_isCapital {d : Char} {rest : Text} (hv : v.IsAsciiLower)
    (hd : isCapital l.isTurkic d = true) : v ≠ d :: rest := by
  rintro rfl
  have hlower := isAsciiLower_of_isCapital _ d hd
  rw [hv d List.mem_cons_self] at hlower
  cases hlower

/-- A word in upper case is looked up in lower case. -/
theorem mem_caseVariants_upper (hne : v ≠ []) (hv : v.IsAsciiLower) :
    v ∈ caseVariants l (l.upper v) := by
  have hsmall : ∀ c ∈ v, isSmall l.isTurkic c = true := fun c hc => isSmall_of_isAsciiLower (hv c hc)
  have hcapital := isCapital_of_mem_upper hsmall
  obtain ⟨d, rest, hupper⟩ : ∃ d rest, l.upper v = d :: rest := by
    rw [upper_eq_map hsmall]
    exact List.exists_cons_of_ne_nil (mt List.map_eq_nil_iff.mp hne)
  rw [mem_caseVariants_iff, Text.isAllUpper_iff]
  refine ⟨?_, .inl ⟨⟨?_, fun c hc => isLowerLetter_of_isCapital _ c (hcapital c hc)⟩,
    .inl (lower_upper hsmall).symm⟩⟩
  · rw [hupper] at hcapital ⊢
    exact ne_cons_of_isCapital hv (hcapital d List.mem_cons_self)
  · rw [hupper]
    exact List.cons_ne_nil d rest

/-- A word of ASCII characters with its first letter alone in upper case is looked up with this letter in
lower case. -/
theorem cons_mem_caseVariants {c : Char} {rest : Text} (hc : isAsciiLower c = true)
    (hrest : ∀ d ∈ rest, isAscii d = true ∧ isAsciiUpper d = false) :
    c :: rest ∈ caseVariants l (l.capitalizeFirst (c :: rest)) := by
  have hsmall : isSmall l.isTurkic c = true := isSmall_of_isAsciiLower hc
  have hcapital := isCapital_upperLetter _ c hsmall
  have hback : lowerLetter l.isTurkic (upperLetter l.isTurkic c) = c := lowerLetter_upperLetter _ c hsmall
  have hfirst : c ≠ upperLetter l.isTurkic c := by
    intro h
    have hlower := isAsciiLower_of_isCapital _ _ hcapital
    rw [← h, hc] at hlower
    cases hlower
  rw [capitalizeFirst_cons hsmall, mem_caseVariants_iff]
  refine ⟨fun h => hfirst (List.cons.inj h).1, ?_⟩
  cases hall : Text.isAllUpper (upperLetter l.isTurkic c :: rest) with
  | true =>
    -- the rest has no letters then, and stays as it is
    have hascii : ∀ d ∈ upperLetter l.isTurkic c :: rest,
        isAscii d = true ∨ isSmall l.isTurkic d = true ∨ isCapital l.isTurkic d = true :=
      List.forall_mem_cons.mpr ⟨.inr (.inr hcapital), fun d hd => .inl (hrest d hd).1⟩
    have hsame : rest.map (lowerLetter l.isTurkic) = rest := by
      conv_rhs => rw [← List.map_id rest]
      exact List.map_congr_left fun d hd => lowerLetter_eq_self _ d (hrest d hd).1 (hrest d hd).2
    rw [lower_eq_map_lowerLetter hascii, List.map_cons, hback, hsame]
    exact .inl ⟨rfl, .inl rfl⟩
  | false =>
    rw [uncapitalize_cons hcapital, hback]
    exact .inr ⟨rfl, isUpper_of_isCapital _ _ hcapital, rfl⟩

theorem mem_caseVariants_capitalizeFirst (hne : v ≠ []) (hv : v.IsAsciiLower) :
    v ∈ caseVariants l (l.capitalizeFirst v) := by
  obtain ⟨c, rest, rfl⟩ := List.exists_cons_of_ne_nil hne
  obtain ⟨hc, hrest⟩ := List.forall_mem_cons.mp hv
  refine cons_mem_caseVariants hc fun d hd => ⟨isAscii_of_isAsciiLower d (hrest d hd), ?_⟩
  exact isAsciiUpper_of_isAsciiLower d (hrest d hd)

/-- What a word of ASCII letters is looked up as in lower case is the word of which it is the upper-case
form, or the form with the first letter in upper case. -/
theorem eq_of_mem_caseVariants (hw : ∀ c ∈ w, isAsciiLetter c = true) (hq : q.IsAsciiLower)
    (h : q ∈ caseVariants l w) : w = l.upper q ∨ w = l.capitalizeFirst q := by
  obtain ⟨-, ⟨hall, hform⟩ | ⟨-, hstarts, rfl⟩⟩ := mem_caseVariants_iff.mp h
  · obtain ⟨hne, -⟩ := Text.isAllUpper_iff.mp hall
    have hcapital : ∀ c ∈ w, isCapital l.isTurkic c = true := by
      intro c hc
      refine isCapital_of_isAsciiUpper ((isAsciiLetter_iff.mp (hw c hc)).resolve_left fun hlower => ?_)
      rw [Text.isAllUpper_eq_false hc (isLowerLetter_of_isAsciiLower c hlower)] at hall
      cases hall
    rcases hform with rfl | rfl
    · exact .inl (upper_lower hcapital).symm
    · -- capitalized again, the word in lower case is not in lower case any more
      obtain ⟨c, rest, rfl⟩ := List.exists_cons_of_ne_nil hne
      have hsmall := isSmall_lowerLetter _ c (hcapital c List.mem_cons_self)
      rw [lower_eq_map hcapital, List.map_cons] at hq
      obtain ⟨d, rest', hd, hcons⟩ :=
        exists_capitalize_cons hsmall (rest.map (lowerLetter l.isTurkic))
      exact absurd hcons (ne_cons_of_isCapital hq hd)
  · cases w with
    | nil => cases hstarts
    | cons c rest =>
      have hc : isAsciiUpper c = true := by
        refine (isAsciiLetter_iff.mp (hw c List.mem_cons_self)).resolve_left fun hlower => ?_
        rw [Text.startsUpper, isUpper_of_isAsciiLower c hlower] at hstarts
        cases hstarts
      have hcapital : isCapital l.isTurkic c = true := isCapital_of_isAsciiUpper hc
      rw [uncapitalize_cons hcapital, capitalizeFirst_cons (isSmall_lowerLetter _ c hcapital),
        upperLetter_lowerLetter _ c hcapital]
      exact .inr rfl

/-! ### Accepted words -/

section WordList

variable {s : Speller} {listed : List Entry} {name : String}

theorem isKnown_iff_of_listing (hlist : s.dictionary.listing = .words (.ofEntries listed true name)) :
    s.isKnown w = true ↔
      ∃ q ∈ (WordList.ofEntries listed true name).words, q = w ∨ q ∈ caseVariants s.locale w := by
  have hconverts : s.convertsCase = true := by
    rw [convertsCase, Dictionary.convertsCase, hlist]
    rfl
  have hcontains : ∀ q, s.dictionary.contains q = true ↔
      q ∈ (WordList.ofEntries listed true name).words := by
    intro q
    rw [Dictionary.contains, hlist]
    exact WordList.contains_iff listed true name q
  rw [isKnown_iff, queries, hconverts, if_pos rfl]
  simp only [List.mem_cons, hcontains]
  exact exists_congr fun q => and_comm

variable (hlist : s.dictionary.listing = .words (.ofEntries listed true name))
  (hlower : ∀ v ∈ (WordList.ofEntries listed true name).words, v.IsAsciiLower)

include hlist hlower

/-- The words of ASCII letters that are accepted are the listed ones, as they are, in upper case, or
with the first letter in upper case. -/
theorem isKnown_iff_of_isAsciiLetter (hw : ∀ c ∈ w, isAsciiLetter c = true) :
    s.isKnown w = true ↔ ∃ v ∈ (WordList.ofEntries listed true name).words,
      w = v ∨ w = s.locale.upper v ∨ w = s.locale.capitalizeFirst v := by
  rw [isKnown_iff_of_listing hlist]
  refine exists_congr fun v => and_congr_right fun hv => ?_
  have hne : v ≠ [] := ((WordList.mem_words_ofEntries listed true name v).mp hv).1
  constructor
  · rintro (rfl | hvariant)
    · exact .inl rfl
    · exact .inr (eq_of_mem_caseVariants hw (hlower v hv) hvariant)
  · rintro (rfl | rfl | rfl)
    · exact .inl rfl
    · exact .inr (mem_caseVariants_upper hne (hlower v hv))
    · exact .inr (mem_caseVariants_capitalizeFirst hne (hlower v hv))

/-- A word of more than a digraph is reported when its digraph is capitalized. -/
theorem isKnown_digraph (c : Char) (rest : Text)
    (hv : 'i' :: 'j' :: c :: rest ∈ (WordList.ofEntries listed true name).words) :
    s.isKnown ('I' :: 'J' :: c :: rest) = false := by
  have hI : isCapital s.locale.isTurkic 'I' = true := isCapital_of_isAsciiUpper (by decide)
  have hc : isAsciiLower c = true := hlower _ hv c (by simp)
  rw [← Bool.not_eq_true, isKnown_iff_of_listing hlist]
  rintro ⟨q, hq, rfl | hvariant⟩
  · exact ne_cons_of_isCapital (hlower _ hq) hI rfl
  · obtain ⟨-, ⟨hall, -⟩ | ⟨-, -, rfl⟩⟩ := mem_caseVariants_iff.mp hvariant
    · rw [Text.isAllUpper_eq_false (by simp) (isLowerLetter_of_isAsciiLower c hc)] at hall
      cases hall
    · -- the variant in lower case keeps the capital J, and no listed word has one
      rw [uncapitalize_cons hI] at hq
      have := hlower _ hq 'J' (by simp)
      revert this
      decide

/-- **Accepted capitals.**  Over a word list of lower-case ASCII words that converts case, a speller
accepts each word as it is listed and in upper case.  It accepts the capitalized word unless a digraph
is capitalized in a longer word.  A word of ASCII letters that it accepts is one of these forms, or has
the first letter of a digraph alone in upper case. -/
theorem isKnown_forms :
    (∀ v ∈ (WordList.ofEntries listed true name).words,
      s.isKnown v = true ∧ s.isKnown (s.locale.upper v) = true ∧
      (s.isKnown (s.locale.capitalize v) = true ↔
        ¬ (s.locale.hasDigraph = true ∧ ∃ c rest, v = 'i' :: 'j' :: c :: rest))) ∧
    ∀ w : Text, (∀ c ∈ w, isAsciiLetter c = true) → s.isKnown w = true →
      ∃ v ∈ (WordList.ofEntries listed true name).words,
        w = v ∨ w = s.locale.capitalize v ∨ w = s.locale.upper v ∨
          s.locale.hasDigraph = true ∧ ∃ rest, v = 'i' :: 'j' :: rest ∧ w = 'I' :: 'j' :: rest := by
  refine ⟨fun v hv => ?_, fun w hw hknown => ?_⟩
  · have hne : v ≠ [] := ((WordList.mem_words_ofEntries listed true name v).mp hv).1
    have hupper : s.isKnown (s.locale.upper v) = true :=
      (isKnown_iff_of_listing hlist).mpr ⟨v, hv, .inr (mem_caseVariants_upper hne (hlower v hv))⟩
    refine ⟨(isKnown_iff_of_listing hlist).mpr ⟨v, hv, .inl rfl⟩, hupper, ?_, fun h => ?_⟩
    · rintro hknown ⟨hdigraph, c, rest, rfl⟩
      rw [capitalize_digraph hdigraph, isKnown_digraph hlist hlower c rest hv] at hknown
      cases hknown
    · by_cases hdigraph : s.locale.hasDigraph = true ∧ ['i', 'j'] <+: v
      · obtain ⟨hdigraph, rest, rfl⟩ := hdigraph
        cases rest with
        | nil =>
          rw [List.append_nil] at hupper ⊢
          rw [capitalize_digraph hdigraph, ← upper_digraph hdigraph]
          exact hupper
        | cons c rest => exact absurd ⟨hdigraph, c, rest, rfl⟩ h
      · rw [capitalize_eq_capitalizeFirst hdigraph]
        exact (isKnown_iff_of_listing hlist).mpr
          ⟨v, hv, .inr (mem_caseVariants_capitalizeFirst hne (hlower v hv))⟩
  · obtain ⟨v, hv, hform⟩ := (isKnown_iff_of_isAsciiLetter hlist hlower hw).mp hknown
    refine ⟨v, hv, ?_⟩
    rcases hform with hform | hform | hform
    · exact .inl hform
    · exact .inr (.inr (.inl hform))
    · by_cases hdigraph : s.locale.hasDigraph = true ∧ ['i', 'j'] <+: v
      · obtain ⟨hdigraph, rest, rfl⟩ := hdigraph
        have hfirst := capitalizeFirst_digraph hdigraph rest
        exact .inr (.inr (.inr ⟨hdigraph, rest, rfl, hform.trans hfirst⟩))
      · rw [capitalize_eq_capitalizeFirst hdigraph]
        exact .inr (.inl hform)

end WordList

/-! ### A Dutch word -/

/-- A Dutch speller over a list of "ijsselmeer" alone. -/
def overIjsselmeer : Speller where
  dictionary := ⟨0, .words (.ofEntries [⟨"ijsselmeer".toList, []⟩] true "words")⟩
  maxDistance := 1
  maxDistance_pos := Int.one_pos
  locale := .dutch
  splitsRunOns := false

theorem words_overIjsselmeer :
    (WordList.ofEntries [⟨"ijsselmeer".toList, []⟩] true "words").words = ["ijsselmeer".toList] := by
  rfl

theorem isAsciiLower_ijsselmeer : Text.IsAsciiLower "ijsselmeer".toList :=
  List.all_eq_true.mp (by rfl)

/-- "IJSSELMEER" is accepted, "IJsselmeer" is not. -/
theorem isKnown_ijsselmeer :
    overIjsselmeer.isKnown (overIjsselmeer.locale.upper "ijsselmeer".toList) = true ∧
    overIjsselmeer.isKnown (overIjsselmeer.locale.capitalize "ijsselmeer".toList) = false := by
  have hlower : ∀ v ∈ (WordList.ofEntries [⟨"ijsselmeer".toList, []⟩] true "words").words,
      v.IsAsciiLower := by
    rw [words_overIjsselmeer, List.forall_mem_singleton]
    exact isAsciiLower_ijsselmeer
  have hlisted : "ijsselmeer".toList ∈
      (WordList.ofEntries [⟨"ijsselmeer".toList, []⟩] true "words").words := by
    rw [words_overIjsselmeer]
    exact List.mem_singleton_self _
  obtain ⟨-, hupper, hcapitalize⟩ := (isKnown_forms (s := overIjsselmeer) rfl hlower).1 _ hlisted
  refine ⟨hupper, ?_⟩
  rw [← Bool.not_eq_true, hcapitalize, not_not]
  exact ⟨by decide, 's', "selmeer".toList, rfl⟩

/-- A speller may report what its own locale makes of a listed word. -/
theorem exists_capitalize_misspelled : ∃ (s : Speller) (listed : List Entry),
    s.dictionary.listing = .words (.ofEntries listed true "words") ∧
    (∀ e ∈ listed, e.word.IsAsciiLower) ∧
    ∃ e ∈ listed, s.isMisspelled (s.locale.capitalize e.word) = true := by
  refine ⟨overIjsselmeer, [⟨"ijsselmeer".toList, []⟩], rfl, ?_, _, List.mem_singleton_self _, ?_⟩
  · exact List.forall_mem_singleton.mpr isAsciiLower_ijsselmeer
  · rfl

end Spelling.Speller

end Copyedit
