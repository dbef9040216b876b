import Copyedit.Proofs.Outcome
import Copyedit.Proofs.Spelling.Capitals
import Copyedit.Rules.Spelling

/-!
# Capitals of ignored and prohibited words

A spelling rule looks a word up among its ignored and its prohibited ones as it is written and in lower
case, and lower case here knows no locale.  For a listed word of small ASCII letters this finds the
capitalized and the upper-case form that the rule's own locale makes, unless there is an İ in it
(`listed_forms`): the small letter of İ is i with a dot above, so that in a Turkic locale "İzmir" does not
lead back to "izmir" (`exists_form_not_listed`).
-/

namespace Copyedit

namespace Locale

variable {l : Locale} {w v : Text}

/-! ### Forms of a word -/

/-- The forms in which a word is written: as it is listed, capitalized, and in upper case. -/
def forms (l : Locale) (w : Text) : List Text := [w, l.capitalize w, l.upper w]

/-- Whether a letter of a form stands for a letter of the word: it is one of ASCII and leads back to it,
or it is İ where the capitals are Turkic. -/
def StandsFor (turkic : Bool) (d c : Char) : Prop :=
  (isAscii d = true ∧ d.toLower = c) ∨ (d = 'İ' ∧ turkic = true ∧ c = 'i')

instance (turkic : Bool) (d c : Char) : Decidable (StandsFor turkic d c) :=
  inferInstanceAs (Decidable (_ ∨ _))

theorem standsFor_self (turkic : Bool) : ∀ c, isAsciiLower c = true → StandsFor turkic c c :=
  forall_isAsciiLower (by cases turkic <;> decide)

theorem upperLetter_standsFor (turkic : Bool) :
    ∀ c, isAsciiLower c = true → StandsFor turkic (upperLetter turkic c) c :=
  forall_isAsciiLower (by cases turkic <;> decide)

/-- A form of a word stands for it letter by letter. -/
theorem standsFor_of_mem_forms (hw : w.IsAsciiLower) (hv : v ∈ l.forms w) :
    List.Forall₂ (StandsFor l.isTurkic) v w := by
  have hsame : ∀ t : Text, t.IsAsciiLower → List.Forall₂ (StandsFor l.isTurkic) t t :=
    fun t ht => List.forall₂_same.mpr fun c hc => standsFor_self _ c (ht c hc)
  have hsmall : ∀ c ∈ w, isSmall l.isTurkic c = true := fun c hc => isSmall_of_isAsciiLower (hw c hc)
  simp only [forms, List.mem_cons, List.not_mem_nil, or_false] at hv
  rcases hv with rfl | rfl | rfl
  · exact hsame v hw
  · by_cases h : l.hasDigraph = true ∧ ['i', 'j'] <+: w
    · obtain ⟨hdigraph, rest, rfl⟩ := h
      have hrest : Text.IsAsciiLower rest := fun c hc => hw c (List.mem_append_right _ hc)
      show List.Forall₂ _ (l.capitalize ('i' :: 'j' :: rest)) ('i' :: 'j' :: rest)
      rw [capitalize_digraph hdigraph]
      exact .cons (.inl (by decide)) (.cons (.inl (by decide)) (hsame rest hrest))
    · rw [capitalize_eq_capitalizeFirst h]
      cases w with
      | nil => exact .nil
      | cons c rest =>
        obtain ⟨hc, hrest⟩ := List.forall_mem_cons.mp hw
        rw [capitalizeFirst_cons (hsmall c List.mem_cons_self)]
        exact .cons (upperLetter_standsFor _ c hc) (hsame rest hrest)
  · rw [upper_eq_map hsmall, List.forall₂_map_left_iff]
    exact List.forall₂_same.mpr fun c hc => upperLetter_standsFor _ c (hw c hc)

/-- Only a Turkic locale makes a form with an İ, and of a word with an i. -/
theorem turkic_of_dotted_mem (hw : w.IsAsciiLower) (hv : v ∈ l.forms w) (hdotted : 'İ' ∈ v) :
    l.isTurkic = true ∧ 'i' ∈ w := by
  obtain ⟨c, hc, hstands⟩ := exists_of_mem_forall₂ (standsFor_of_mem_forms hw hv).flip hdotted
  rcases hstands with ⟨hascii, -⟩ | ⟨-, hturkic, rfl⟩
  · exact absurd hascii (by decide)
  · exact ⟨hturkic, hc⟩

/-- Without an İ, a form leads back to the word in lower case. -/
theorem lower_of_mem_forms (hw : w.IsAsciiLower) (hv : v ∈ l.forms w) (hdotted : 'İ' ∉ v) :
    v.lower = w := by
  have hletters : ∀ (v w : Text), List.Forall₂ (StandsFor l.isTurkic) v w → 'İ' ∉ v →
      (∀ d ∈ v, isAscii d = true) ∧ v.map Char.toLower = w := by
    intro v w h
    induction h with
    | nil => simp
    | @cons d c v w hd _ ih =>
      intro hdotted
      rw [List.mem_cons, not_or] at hdotted
      obtain ⟨hascii, hc⟩ := hd.resolve_right fun h => hdotted.1 h.1.symm
      obtain ⟨hrest, hmap⟩ := ih hdotted.2
      exact ⟨List.forall_mem_cons.mpr ⟨hascii, hrest⟩, by rw [List.map_cons, hc, hmap]⟩
  obtain ⟨hascii, hmap⟩ := hletters v w (standsFor_of_mem_forms hw hv) hdotted
  rw [Text.lower_eq_map_toLower hascii, hmap]

/-- With one, it keeps the dot above. -/
theorem lower_ne_of_dotted_mem (hw : w.IsAsciiLower) (hdotted : 'İ' ∈ v) : v.lower ≠ w := by
  intro h
  have hdot : '\u0307' ∈ v.lower := Text.mem_lowerAfter (by decide) (by decide) hdotted []
  have hascii := hw _ (h ▸ hdot)
  exact absurd hascii (by decide)

end Locale

namespace SpellingRule

variable {S : Type} {r : SpellingRule S} {words : List Text} {w v : Text}

/-! ### Lists -/

theorem isListed_iff : isListed words v = true ↔ v ∈ words ∨ v.lower ∈ words := by
  rw [isListed, Bool.or_eq_true, List.contains_iff_mem, List.contains_iff_mem]

/-- A token whose word is ignored is skipped. -/
theorem skips_of_isListed [LT S] [DecidableLT S] {k : Token} (hk : k.text = some v)
    (hv : isListed r.options.ignored v = true) : r.skips k = .ok true := by
  unfold skips Token.characters
  rw [hk]
  show Except.ok _ = _
  simp [hv]

/-- **Capitals of listed words.**  Let `v` be a form of a word of small ASCII letters in the locale of a
spelling rule.  If there is no İ in `v`, the rule skips `v` where it ignores the word and prohibits `v`
where it prohibits the word.  An İ is only there in a Turkic locale, for an i, and then listing the word
does not list `v`. -/
theorem listed_forms [LT S] [DecidableLT S] (r : SpellingRule S) (hw : w.IsAsciiLower)
    (hv : v ∈ r.options.locale.forms w) :
    ('İ' ∉ v →
      (w ∈ r.options.ignored → ∀ k : Token, k.text = some v → r.skips k = .ok true) ∧
      (w ∈ r.options.prohibited → r.isProhibited v = true)) ∧
    ('İ' ∈ v →
      r.options.locale.isTurkic = true ∧ 'i' ∈ w ∧ isListed [w] v = false) := by
  constructor
  · intro hdotted
    have hlower := Locale.lower_of_mem_forms hw hv hdotted
    have hlisted : ∀ words, w ∈ words → isListed words v = true := by
      intro words hmem
      rw [isListed_iff, hlower]
      exact .inr hmem
    exact ⟨fun hmem k hk => skips_of_isListed hk (hlisted _ hmem), fun hmem => hlisted _ hmem⟩
  · intro hdotted
    obtain ⟨hturkic, hi⟩ := Locale.turkic_of_dotted_mem hw hv hdotted
    refine ⟨hturkic, hi, ?_⟩
    rw [← Bool.not_eq_true, isListed_iff, List.mem_singleton, List.mem_singleton]
    rintro (rfl | hlower)
    · exact absurd (hw _ hdotted) (by decide)
    · exact Locale.lower_ne_of_dotted_mem hw hdotted hlower

/-! ### A Dutch and a Turkish word -/

section Examples

/-- A rule without dictionaries that ignores and prohibits one word. -/
def listing (l : Locale) (w : Text) : SpellingRule Nat where
  options := { distances := [1], ignored := [w], prohibited := [w], locale := l }
  nearest := ⟨1, []⟩
  wider := []
  ranker := ⟨none, 2⟩

theorem dotted_mem_forms : "İzmir".toList ∈ Locale.turkish.forms "izmir".toList := by decide +kernel

/-- With "ijs", a Dutch rule lists "IJs"; with "izmir", a Turkish one does not list "İzmir". -/
theorem listed_ijs : Text.IsAsciiLower "ijs".toList ∧ "IJs".toList ∈ Locale.dutch.forms "ijs".toList ∧
    (listing Locale.dutch "ijs".toList).skips { text := some "IJs".toList } = .ok true ∧
    (listing Locale.dutch "ijs".toList).isProhibited "IJs".toList = true ∧
    isListed ["izmir".toList] "İzmir".toList = false := by
  have hijs : Text.IsAsciiLower "ijs".toList := List.all_eq_true.mp (by rfl)
  have hizmir : Text.IsAsciiLower "izmir".toList := List.all_eq_true.mp (by rfl)
  have hform : "IJs".toList ∈ Locale.dutch.forms "ijs".toList := by decide +kernel
  obtain ⟨hskips, hprohibited⟩ :=
    (listed_forms (listing Locale.dutch "ijs".toList) hijs hform).1 (by decide)
  obtain ⟨-, -, hnot⟩ :=
    (listed_forms (listing Locale.turkish "izmir".toList) hizmir dotted_mem_forms).2 (by decide)
  have hmem := List.mem_singleton_self "ijs".toList
  exact ⟨hijs, hform, hskips hmem _ rfl, hprohibited hmem, hnot⟩

/-- A rule may neither skip nor prohibit a form that its own locale makes of a word that it ignores and
prohibits. -/
theorem exists_form_not_listed : ∃ (dictionaries : List Spelling.Dictionary) (ranker : Ranking.Ranker Nat)
    (o : SpellingOptions) (r : SpellingRule Nat) (w : Text),
    make dictionaries ranker o = .ok r ∧ w.IsAsciiLower ∧ w ∈ o.ignored ∧ w ∈ o.prohibited ∧
      ∃ v ∈ o.locale.forms w, r.skips { text := some v } = .ok false ∧ r.isProhibited v = false := by
  have hizmir : Text.IsAsciiLower "izmir".toList := List.all_eq_true.mp (by rfl)
  have hmem := List.mem_singleton_self "izmir".toList
  exact ⟨[], ⟨none, 2⟩, (listing Locale.turkish "izmir".toList).options, listing Locale.turkish "izmir".toList,
    "izmir".toList, rfl, hizmir, hmem, hmem, "İzmir".toList, dotted_mem_forms, rfl, by decide⟩

end Examples

end SpellingRule

end Copyedit
