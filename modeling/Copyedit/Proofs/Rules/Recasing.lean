import Copyedit.Proofs.Casing.Classification
import Copyedit.Proofs.Rules.Replacement

/-!
# Replacements in the casing of the word

Of a word of ASCII letters a locale makes three forms: in lower case, that form capitalized, and in upper
case.  Each form leads back to the word in lower case (`lower_lower`, `lower_capitalize_lower`,
`lower_upper_of_letters`): the Turkic i's and the Dutch digraph go there and back.  And each is seen to be in
the casing that it was made in, the capitalized one if there are small letters left in it.

So where no other listed word has the same lower case, a rule on listed words replaces each form by the listed
replacements in the same form (`replacementsFor_forms`).
-/

namespace Copyedit

namespace Locale

variable {l : Locale} {k t : Text}

/-! ### Forms of a word -/

/-- Capitalizing puts a start of the text into upper case. -/
theorem exists_capitalize_eq (l : Locale) (t : Text) :
    ∃ front rest, t = front ++ rest ∧ l.capitalize t = l.upper front ++ rest := by
  by_cases hstarts : l.hasDigraph = true ∧ ['i', 'j'] <+: t
  · obtain ⟨hdigraph, rest, rfl⟩ := hstarts
    refine ⟨['i', 'j'], rest, rfl, ?_⟩
    rw [upper_digraph hdigraph]
    exact capitalize_digraph hdigraph rest
  · rw [capitalize_eq_capitalizeFirst hstarts]
    cases t with
    | nil => exact ⟨[], [], rfl, (List.append_nil _).symm ▸ (upper_eq_map (List.forall_mem_nil _)).symm⟩
    | cons c rest => exact ⟨[c], rest, rfl, rfl⟩

/-- Small letters behind capitals stay as they are in lower case. -/
theorem lower_append {front rest : Text} (hfront : ∀ c ∈ front, isCapital l.isTurkic c = true)
    (hrest : ∀ c ∈ rest, isSmall l.isTurkic c = true) : l.lower (front ++ rest) = l.lower front ++ rest := by
  have hletters : ∀ c ∈ front ++ rest,
      isAscii c = true ∨ isSmall l.isTurkic c = true ∨ isCapital l.isTurkic c = true :=
    List.forall_mem_append.mpr ⟨fun c hc => .inr (.inr (hfront c hc)), fun c hc => .inr (.inl (hrest c hc))⟩
  have hsame : rest.map (lowerLetter l.isTurkic) = rest := by
    rw [← lower_eq_map_lowerLetter fun c hc => .inr (.inl (hrest c hc))]
    exact lower_eq_self hrest
  rw [lower_eq_map_lowerLetter hletters, List.map_append, hsame, lower_eq_map hfront]

/-- Capitalized small letters lead back to the small ones in lower case. -/
theorem lower_capitalize (h : ∀ c ∈ t, isSmall l.isTurkic c = true) : l.lower (l.capitalize t) = t := by
  obtain ⟨front, rest, rfl, hcapitalize⟩ := exists_capitalize_eq l t
  obtain ⟨hfront, hrest⟩ := List.forall_mem_append.mp h
  rw [hcapitalize, lower_append (isCapital_of_mem_upper hfront) hrest, lower_upper hfront]

section Letters

variable (hk : ∀ c ∈ k, isAsciiLetter c = true)

include hk

/-- A word of ASCII letters has small letters in lower case. -/
theorem isSmall_of_mem_lower_of_letters : ∀ c ∈ l.lower k, isSmall l.isTurkic c = true := by
  have hascii : ∀ c ∈ k, isAscii c = true := fun c hc => isAscii_of_isAsciiLetter c (hk c hc)
  rw [lower_ascii hascii, List.forall_mem_map]
  intro c hc
  rcases isAsciiLetter_iff.mp (hk c hc) with hlower | hupper
  · have hsmall : isSmall l.isTurkic c = true := isSmall_of_isAsciiLower hlower
    rwa [lowerLetter_of_isSmall _ c hsmall]
  · exact isSmall_lowerLetter _ c (isCapital_of_isAsciiUpper hupper)

/-- It has capitals in upper case. -/
theorem isCapital_of_mem_upper_of_letters : ∀ c ∈ l.upper k, isCapital l.isTurkic c = true := by
  have hascii : ∀ c ∈ k, isAscii c = true := fun c hc => isAscii_of_isAsciiLetter c (hk c hc)
  rw [upper_eq_map_upperLetter fun c hc => .inl (hascii c hc), List.forall_mem_map]
  intro c hc
  rcases isAsciiLetter_iff.mp (hk c hc) with hlower | hupper
  · exact isCapital_upperLetter _ c (isSmall_of_isAsciiLower hlower)
  · have hcapital : isCapital l.isTurkic c = true := isCapital_of_isAsciiUpper hupper
    rwa [upperLetter_of_isCapital _ c hcapital]

/-- Upper case leads to the same small letters as the word itself. -/
theorem lower_upper_of_letters : l.lower (l.upper k) = l.lower k := by
  have hascii : ∀ c ∈ k, isAscii c = true := fun c hc => isAscii_of_isAsciiLetter c (hk c hc)
  have hletter : ∀ c, isAscii c = true →
      lowerLetter l.isTurkic (upperLetter l.isTurkic c) = lowerLetter l.isTurkic c :=
    lowerLetter_upperLetter_of_isAscii l.isTurkic
  rw [lower_eq_map (isCapital_of_mem_upper_of_letters hk), lower_ascii hascii,
    upper_eq_map_upperLetter fun c hc => .inl (hascii c hc), List.map_map]
  exact List.map_congr_left fun c hc => hletter c (hascii c hc)

theorem lower_lower_of_letters : l.lower (l.lower k) = l.lower k :=
  lower_eq_self (isSmall_of_mem_lower_of_letters hk)

theorem lower_capitalize_lower_of_letters : l.lower (l.capitalize (l.lower k)) = l.lower k :=
  lower_capitalize (isSmall_of_mem_lower_of_letters hk)

/-! ### Their casings -/

theorem casing_lower : (l.lower k).casing = .plain := by
  have hsmall := isSmall_of_mem_lower_of_letters (l := l) hk
  have hstarts : (l.lower k).startsUpper = false := by
    cases hlower : l.lower k with
    | nil => rfl
    | cons c rest =>
      rw [hlower] at hsmall
      exact isUpper_of_isSmall _ c (hsmall c List.mem_cons_self)
  rw [Text.casing, hstarts]
  rfl

theorem casing_upper (hne : k ≠ []) : (l.upper k).casing = .upper := by
  have hcapital := isCapital_of_mem_upper_of_letters (l := l) hk
  have hne' : l.upper k ≠ [] := by
    rw [upper_eq_map_upperLetter fun c hc => .inl (isAscii_of_isAsciiLetter c (hk c hc))]
    exact mt List.map_eq_nil_iff.mp hne
  have hall : (l.upper k).isAllUpper = true :=
    Text.isAllUpper_iff.mpr ⟨hne', fun c hc => isLowerLetter_of_isCapital _ c (hcapital c hc)⟩
  have hstarts : (l.upper k).startsUpper = true := by
    obtain ⟨c, rest, hupper⟩ := List.exists_cons_of_ne_nil hne'
    rw [hupper] at hcapital ⊢
    exact isUpper_of_isCapital _ c (hcapital c List.mem_cons_self)
  rw [Text.casing, hstarts, hall]
  rfl

/-- A capitalized word counts as such if it has small letters left. -/
theorem casing_capitalize_lower (hleft : (l.capitalize (l.lower k)).any Text.isLowerLetter = true) :
    (l.capitalize (l.lower k)).casing = .capitalized := by
  have hsmall := isSmall_of_mem_lower_of_letters (l := l) hk
  obtain ⟨c, hc, hlower⟩ := List.any_eq_true.mp hleft
  have hall : (l.capitalize (l.lower k)).isAllUpper = false := Text.isAllUpper_eq_false hc hlower
  have hstarts : (l.capitalize (l.lower k)).startsUpper = true := by
    cases hcons : l.lower k with
    | nil =>
      rw [hcons] at hc
      cases hc
    | cons d rest =>
      rw [hcons] at hsmall
      obtain ⟨d', rest', hd', hcapitalize⟩ := exists_capitalize_cons (hsmall d List.mem_cons_self) rest
      rw [hcapitalize]
      exact isUpper_of_isCapital _ d' hd'
  rw [Text.casing, hstarts, hall]
  rfl

end Letters

end Locale

namespace ReplacementRule

variable {table : ReplacementTable} {o : Options} {r : ReplacementRule} {k : Text} {listed : List Text}

/-! ### The table of a rule -/

/-- The form of a word leads to its replacements, the empty ones apart, if no other listed word has it. -/
theorem lookup_forms (hmake : make table o = .ok r) (hcase : o.caseSensitive = false)
    (hlisted : (k, listed) ∈ tableOf table)
    (hown : ∀ e ∈ tableOf table, o.locale.lower e.1 = o.locale.lower k → e.1 = k) :
    k ≠ [] ∧ r.forms.lookup (o.locale.lower k) = some (listed.filter (!·.isEmpty)) := by
  obtain ⟨checked, hchecked, rfl⟩ := map_ok_iff.mp hmake
  have hentries := mapM_ok_iff.mp hchecked
  obtain ⟨e, he, hentry⟩ := exists_of_mem_forall₂ hentries.flip hlisted
  obtain ⟨hne, -, rfl⟩ := checkEntry_ok_iff.mp hentry
  refine ⟨hne, ?_⟩
  dsimp only
  rw [hcase, if_neg Bool.false_ne_true, lookup_tableOf]
  apply lookup_of_mem_of_forall
  · rw [List.mem_reverse]
    exact List.mem_map_of_mem he
  · intro e' he' hform
    rw [List.mem_reverse] at he'
    obtain ⟨e'', he'', rfl⟩ := List.mem_map.mp he'
    -- an entry of the same form is that of the same word, and no word is listed twice
    obtain ⟨⟨k', listed'⟩, hlisted', hentry'⟩ := exists_of_mem_forall₂ hentries he''
    obtain ⟨-, -, rfl⟩ := checkEntry_ok_iff.mp hentry'
    obtain rfl : k' = k := hown _ hlisted' hform
    have hfirst := lookup_of_mem_of_nodup (nodup_keys_tableOf table) hlisted
    have hsecond := lookup_of_mem_of_nodup (nodup_keys_tableOf table) hlisted'
    obtain rfl : listed = listed' := Option.some.inj (hfirst.symm.trans hsecond)
    rfl

/-- A rule takes its locale, and whether case matters, from its settings. -/
theorem settings_of_make (hmake : make table o = .ok r) :
    r.caseSensitive = o.caseSensitive ∧ r.locale = o.locale := by
  obtain ⟨checked, -, rfl⟩ := map_ok_iff.mp hmake
  exact ⟨rfl, rfl⟩

/-- A word with the form of a listed one is replaced by what is listed, in the casing of the word. -/
theorem replacementsFor_of_lower_eq (hmake : make table o = .ok r) (hcase : o.caseSensitive = false)
    (hlisted : (k, listed) ∈ tableOf table)
    (hown : ∀ e ∈ tableOf table, o.locale.lower e.1 = o.locale.lower k → e.1 = k)
    {w : Text} (hw : o.locale.lower w = o.locale.lower k) :
    r.replacementsFor w = (listed.filter (!·.isEmpty)).map (o.locale.inCasing w.casing) := by
  obtain ⟨-, hlookup⟩ := lookup_forms hmake hcase hlisted hown
  obtain ⟨hsensitive, hlocale⟩ := settings_of_make hmake
  have hform : r.lookupForm w = o.locale.lower k := by
    rw [lookupForm, hsensitive, hcase, if_neg Bool.false_ne_true, hlocale, hw]
  have hoffered : r.offered w.casing = o.locale.inCasing w.casing := by
    funext s
    rw [offered, hsensitive, hcase, if_neg Bool.false_ne_true, hlocale]
  rw [replacementsFor_eq, hform, hlookup, Option.getD_some, hoffered]

/-- **Replacements in the casing of the word.**  Of a listed word of ASCII letters whose lower case no other listed
word has, a rule that does not look at case replaces the lower case by the listed replacements as they are, the
upper case by them in upper case, and the capitalized lower case, as far as it has small letters, by them
capitalized.  Empty replacements are left out. -/
theorem replacementsFor_forms (hmake : make table o = .ok r) (hcase : o.caseSensitive = false)
    (hlisted : (k, listed) ∈ tableOf table) (hletters : ∀ c ∈ k, isAsciiLetter c = true)
    (hown : ∀ e ∈ tableOf table, o.locale.lower e.1 = o.locale.lower k → e.1 = k) :
    r.replacementsFor (o.locale.lower k) = listed.filter (!·.isEmpty) ∧
    r.replacementsFor (o.locale.upper k) = (listed.filter (!·.isEmpty)).map o.locale.upper ∧
    ((o.locale.capitalize (o.locale.lower k)).any Text.isLowerLetter = true →
      r.replacementsFor (o.locale.capitalize (o.locale.lower k)) =
        (listed.filter (!·.isEmpty)).map o.locale.capitalize) := by
  obtain ⟨hne, -⟩ := lookup_forms hmake hcase hlisted hown
  refine ⟨?_, ?_, fun hleft => ?_⟩
  · have hback := Locale.lower_lower_of_letters (l := o.locale) hletters
    rw [replacementsFor_of_lower_eq hmake hcase hlisted hown hback, Locale.casing_lower hletters]
    exact List.map_id' _
  · have hback := Locale.lower_upper_of_letters (l := o.locale) hletters
    rw [replacementsFor_of_lower_eq hmake hcase hlisted hown hback, Locale.casing_upper hletters hne]
    rfl
  · have hback := Locale.lower_capitalize_lower_of_letters (l := o.locale) hletters
    rw [replacementsFor_of_lower_eq hmake hcase hlisted hown hback,
      Locale.casing_capitalize_lower hletters hleft]
    rfl

/-! ### A Turkish and a Dutch word -/

section Examples

/-- Turkish settings. -/
def turkishOptions : Options := { locale := .turkish }

/-- Dutch settings. -/
def dutchOptions : Options := { locale := .dutch }

/-- A word with both i's and two replacements with the dotted one. -/
def dottedTable : ReplacementTable := [("Ikin".toList, ["iki".toList, [], "ikiz".toList])]

/-- A word with the digraph. -/
def digraphTable : ReplacementTable := [("ijs".toList, ["ijsje".toList])]

/-- What is said for "IKİN" has dotted capitals, and what is said for "IJs" has a capital digraph. -/
theorem replacementsFor_ikin_ijs : ∃ r r',
    make dottedTable turkishOptions = .ok r ∧ make digraphTable dutchOptions = .ok r' ∧
    (∀ c ∈ "Ikin".toList, isAsciiLetter c = true) ∧ (∀ c ∈ "ijs".toList, isAsciiLetter c = true) ∧
    r.replacementsFor "IKİN".toList = ["İKİ".toList, "İKİZ".toList] ∧
    r'.replacementsFor "IJs".toList = ["IJsje".toList] := by
  have hikin : ∀ c ∈ "Ikin".toList, isAsciiLetter c = true := List.all_eq_true.mp (by rfl)
  have hijs : ∀ c ∈ "ijs".toList, isAsciiLetter c = true := List.all_eq_true.mp (by rfl)
  have hown : ∀ e ∈ tableOf dottedTable, turkishOptions.locale.lower e.1 =
      turkishOptions.locale.lower "Ikin".toList → e.1 = "Ikin".toList := by decide +kernel
  have hown' : ∀ e ∈ tableOf digraphTable, dutchOptions.locale.lower e.1 =
      dutchOptions.locale.lower "ijs".toList → e.1 = "ijs".toList := by decide +kernel
  obtain ⟨r, hr⟩ : ∃ r, make dottedTable turkishOptions = .ok r := ⟨_, rfl⟩
  obtain ⟨r', hr'⟩ : ∃ r', make digraphTable dutchOptions = .ok r' := ⟨_, rfl⟩
  have hupper := (replacementsFor_forms hr rfl List.mem_cons_self hikin hown).2.1
  have hcapitalized := (replacementsFor_forms hr' rfl List.mem_cons_self hijs hown').2.2 (by decide +kernel)
  have hform : turkishOptions.locale.upper "Ikin".toList = "IKİN".toList := by decide +kernel
  have hform' : dutchOptions.locale.capitalize (dutchOptions.locale.lower "ijs".toList) = "IJs".toList := by
    decide +kernel
  rw [hform] at hupper
  rw [hform'] at hcapitalized
  refine ⟨r, r', hr, hr', hikin, hijs, hupper.trans ?_, hcapitalized.trans ?_⟩
  · decide +kernel
  · decide +kernel

end Examples

end ReplacementRule

end Copyedit
