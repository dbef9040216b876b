import Copyedit.Proofs.Spelling.Capitals

/-!
# Suggestions are accepted

A speller over a list of ASCII words never suggests what it would report itself, unless its locale
capitalizes the digraph: a listed word in the casing of the misspelled word is known, and so are both parts
of a word that is split (`suggestions_accepted`).

A listed word is only capitalized if that changes its first letter alone, or nothing: it has no capital
after the first letter, and its capitalized form is looked up as it is listed (`isKnown_recase`).  A split is
not changed at all, since it starts as the misspelled word does, with a capital where it would be
capitalized (`recase_take_append`).
-/

namespace Copyedit.Spelling.Speller

open Copyedit.Locale

variable {s : Speller} {word w t : Text}

/-! ### The casing of a suggestion -/

/-- What starts as the word does is left as it is. -/
theorem recase_take_append {i : Nat} (hi : 0 < i) (rest : Text) :
    s.recase word (word.take i ++ rest) = word.take i ++ rest := by
  unfold recase
  split
  · rename_i hcapital
    rw [Bool.and_eq_true, Bool.and_eq_true] at hcapital
    -- only what is suggested for a word with a capital is capitalized
    refine capitalize_of_startsUpper ?_
    cases word with
    | nil => cases hcapital.1.2
    | cons c rest' =>
      obtain ⟨i, rfl⟩ := Nat.exists_eq_add_of_lt hi
      exact hcapital.1.2
  · rfl

/-- After a small first letter there are no capitals, unless cases mix. -/
theorem isAsciiUpper_eq_false_of_not_isMixedCase {c : Char} {rest : Text}
    (hascii : ∀ d ∈ c :: rest, isAscii d = true) (hc : isAsciiLower c = true)
    (hmixed : Text.isMixedCase (c :: rest) = false) : ∀ d ∈ rest, isAsciiUpper d = false := by
  have hall : Text.isAllUpper (c :: rest) = false :=
    Text.isAllUpper_eq_false List.mem_cons_self (isLowerLetter_of_isAsciiLower c hc)
  have hcapitalized : Text.isCapitalized (c :: rest) = false := by
    rw [Text.isCapitalized, isUpper_of_isAsciiLower c hc, Bool.false_and]
  rw [Text.isMixedCase, hall, hcapitalized, Bool.not_false, Bool.and_true, Bool.and_true,
    List.any_eq_false] at hmixed
  intro d hd
  have hother := hmixed d (List.mem_cons_of_mem c hd)
  rwa [isOtherLetter_of_isAscii d (hascii d (List.mem_cons_of_mem c hd)), Bool.not_eq_true] at hother

/-- An ASCII word whose cases do not mix is a variant of its capitalized form, if it is not that form. -/
theorem capitalize_eq_or_mem_caseVariants {l : Locale} (hdigraph : l.hasDigraph = false)
    (hascii : ∀ c ∈ w, isAscii c = true) (hmixed : w.isMixedCase = false) :
    l.capitalize w = w ∨ w ∈ caseVariants l (l.capitalize w) := by
  have hfirst : l.capitalize w = l.capitalizeFirst w := by
    refine capitalize_eq_capitalizeFirst fun ⟨h, _⟩ => ?_
    rw [hdigraph] at h
    cases h
  rw [hfirst]
  cases w with
  | nil => exact .inl rfl
  | cons c rest =>
    have hc := hascii c List.mem_cons_self
    -- a first character other than a small letter is its own upper case
    cases hlower : isAsciiLower c with
    | true =>
      have hrest := isAsciiUpper_eq_false_of_not_isMixedCase hascii hlower hmixed
      exact .inr (cons_mem_caseVariants hlower fun d hd =>
        ⟨hascii d (List.mem_cons_of_mem c hd), hrest d hd⟩)
    | false =>
      left
      rw [capitalizeFirst, upper_eq_map_upperLetter (List.forall_mem_singleton.mpr (.inl hc)),
        List.map_singleton, upperLetter_eq_self _ c hc hlower]
      rfl

/-! ### Known words -/

theorem isKnown_of_contains (h : s.dictionary.contains word = true) : s.isKnown word = true :=
  isKnown_iff.mpr ⟨word, List.mem_cons_self, h⟩

theorem isKnown_of_mem_caseVariants (hconverts : s.convertsCase = true)
    (hw : w ∈ caseVariants s.locale word) (h : s.dictionary.contains w = true) :
    s.isKnown word = true := by
  refine isKnown_iff.mpr ⟨w, ?_, h⟩
  rw [queries, hconverts, if_pos rfl]
  exact List.mem_cons_of_mem word hw

/-- A listed ASCII word in the casing of another is known. -/
theorem isKnown_recase (hdigraph : s.locale.hasDigraph = false) (hascii : ∀ c ∈ w, isAscii c = true)
    (hw : s.dictionary.contains w = true) : s.isKnown (s.recase word w) = true := by
  unfold recase
  split
  · rename_i hcapital
    rw [Bool.and_eq_true, Bool.and_eq_true, Bool.not_eq_true'] at hcapital
    obtain ⟨⟨hconverts, -⟩, hmixed⟩ := hcapital
    rcases capitalize_eq_or_mem_caseVariants hdigraph hascii hmixed with hsame | hvariant
    · rw [hsame]
      exact isKnown_of_contains hw
    · exact isKnown_of_mem_caseVariants hconverts hvariant hw
  · exact isKnown_of_contains hw

/-- A variant of a word with a space has one, too. -/
theorem space_mem_of_mem_caseVariants {l : Locale} (hw : w ∈ caseVariants l word) (h : ' ' ∈ word) :
    ' ' ∈ w := by
  obtain ⟨-, ⟨-, rfl | rfl⟩ | ⟨-, -, rfl⟩⟩ := mem_caseVariants_iff.mp hw
  · exact space_mem_lower_of_mem h
  · exact space_mem_capitalize_of_mem (space_mem_lower_of_mem h)
  · exact space_mem_uncapitalize_of_mem h

theorem space_notMem_of_isKnown (hspace : ∀ w, s.dictionary.contains w = true → ' ' ∉ w)
    (h : s.isKnown word = true) : ' ' ∉ word := by
  obtain ⟨q, hq, hlisted⟩ := isKnown_iff.mp h
  intro hmem
  rw [queries, List.mem_cons] at hq
  rcases hq with rfl | hq
  · exact hspace q hlisted hmem
  · split at hq
    · exact hspace q hlisted (space_mem_of_mem_caseVariants hq hmem)
    · exact List.not_mem_nil hq

/-! ### Suggestions -/

section WordList

variable {listed : List Entry} {convertsCase : Bool} {name : String}
  (hs : s.dictionary.listing = .words (.ofEntries listed convertsCase name))
  (hascii : ∀ e ∈ listed, ∀ c ∈ e.word, isAscii c = true ∧ c ≠ ' ')

include hs hascii

theorem forall_mem_of_contains (hw : s.dictionary.contains w = true) :
    ∀ c ∈ w, isAscii c = true ∧ c ≠ ' ' := by
  simp only [Dictionary.contains, hs, WordList.contains_iff] at hw
  obtain ⟨-, hmem⟩ := (WordList.mem_words_ofEntries listed convertsCase name w).mp hw
  obtain ⟨e, he, rfl⟩ := List.mem_map.mp hmem
  exact hascii e he

/-- Both parts of a split are known, and are what the space is between. -/
theorem exists_parts (h : s.IsRunOn word t) : ∃ a b, t.splitAtChar ' ' = [a, b] ∧ a ++ b = word ∧
    s.isKnown a = true ∧ s.isKnown b = true := by
  have hspace : ∀ w, s.dictionary.contains w = true → ' ' ∉ w := fun w hw hmem =>
    (forall_mem_of_contains hs hascii hw ' ' hmem).2 rfl
  obtain ⟨-, u, hu, rfl⟩ := h
  obtain ⟨i, hi, -, hfirst, hsecond, rfl⟩ := mem_runOnSplits_iff.mp hu
  refine ⟨word.take i, word.drop i, ?_, List.take_append_drop i word, hfirst, hsecond⟩
  rw [recase_take_append (Nat.lt_of_lt_of_le Nat.two_pos hi),
    Text.splitAtChar_append_cons (space_notMem_of_isKnown hspace hfirst),
    Text.splitAtChar_of_notMem (space_notMem_of_isKnown hspace hsecond)]

/-- **Suggestions are accepted.**  Over a list of ASCII words without spaces, a speller in a locale that
does not capitalize the digraph accepts what it suggests: the suggestion as a whole or, where it splits the
word, both parts. -/
theorem suggestions_accepted (hdigraph : s.locale.hasDigraph = false) (ht : t ∈ s.suggestions word) :
    (¬ s.IsRunOn word t → s.isMisspelled t = false) ∧
      (s.IsRunOn word t → ∃ a b, t.splitAtChar ' ' = [a, b] ∧ a ++ b = word ∧
        s.isMisspelled a = false ∧ s.isMisspelled b = false) := by
  have haccepted : ∀ {w}, s.isKnown w = true → s.isMisspelled w = false := by
    intro w hw
    rw [isMisspelled, hw, Bool.not_true, Bool.and_false]
  constructor
  · intro hrunOn
    obtain ⟨c, hc, rfl⟩ := List.mem_map.mp ht
    obtain ⟨⟨⟨n, w⟩, he, hrecase, -⟩, -⟩ := candidates_least hc
    rcases mem_found_iff.mp he with ⟨q, -, hlookup, -⟩ | ⟨hsplits, hw, -⟩
    · have hlisted := ((mem_lookup_iff hs).mp hlookup).1
      rw [← hrecase]
      exact haccepted (isKnown_recase hdigraph
        (fun c hc => (forall_mem_of_contains hs hascii hlisted c hc).1) hlisted)
    · exact absurd ⟨hsplits, w, hw, hrecase⟩ hrunOn
  · intro hrunOn
    obtain ⟨a, b, hparts, hword, ha, hb⟩ := exists_parts hs hascii hrunOn
    exact ⟨a, b, hparts, hword, haccepted ha, haccepted hb⟩

end WordList

/-! ### A Turkish word -/

section Examples

/-- A list of "izmir" alone. -/
def izmir : Dictionary := ⟨0, .words (.ofEntries [⟨"izmir".toList, []⟩])⟩

/-- A Turkish speller over the list. -/
def overIzmir : Speller := ⟨izmir, 1, Int.one_pos, .turkish, true⟩

theorem found_izmit : overIzmir.found "İzmit".toList = [(1, "izmir".toList)] := by
  have hasWritten : izmir.lookup "İzmit".toList 1 = [] :=
    WordList.lookup_of_within [] (by decide) rfl List.Pairwise.nil
  have hsmall : izmir.lookup "izmit".toList 1 = ["izmir".toList] :=
    WordList.lookup_of_within [⟨1, 0, "izmir".toList⟩] (by decide) rfl (by decide)
  have hlookup : ∀ q ∈ overIzmir.queries "İzmit".toList, izmir.lookup q 1 =
      if q = "İzmit".toList then [] else ["izmir".toList] :=
    List.forall_mem_cons.mpr ⟨hasWritten, List.forall_mem_singleton.mpr hsmall⟩
  rw [found_of_lookup hlookup]
  rfl

/-- "İzmir", with the dotted capital, is suggested for "İzmit", and accepted. -/
theorem suggestions_accepted_izmit :
    (∀ e ∈ [(⟨"izmir".toList, []⟩ : Entry)], ∀ c ∈ e.word, isAscii c = true ∧ c ≠ ' ') ∧
      overIzmir.locale.hasDigraph = false ∧
      "İzmir".toList ∈ overIzmir.suggestions "İzmit".toList ∧
      overIzmir.isMisspelled "İzmir".toList = false := by
  have hascii : ∀ e ∈ [(⟨"izmir".toList, []⟩ : Entry)], ∀ c ∈ e.word, isAscii c = true ∧ c ≠ ' ' := by
    rw [List.forall_mem_singleton]
    repeat' refine List.forall_mem_cons.mpr ⟨by decide, ?_⟩
    exact List.forall_mem_nil _
  have hdigraph : overIzmir.locale.hasDigraph = false := by rfl
  have hsuggested : "İzmir".toList ∈ overIzmir.suggestions "İzmit".toList := by
    rw [suggestions, candidates_of_found rfl found_izmit (by decide)]
    exact List.mem_cons_self
  have hsplits : overIzmir.runOnSplits "İzmit".toList = [] := rfl
  refine ⟨hascii, hdigraph, hsuggested, ?_⟩
  refine (suggestions_accepted (s := overIzmir) rfl hascii hdigraph hsuggested).1 ?_
  rintro ⟨-, u, hu, -⟩
  rw [hsplits] at hu
  exact List.not_mem_nil hu

end Examples

end Copyedit.Spelling.Speller
