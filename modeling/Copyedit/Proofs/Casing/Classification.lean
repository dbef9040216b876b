import Copyedit.Proofs.Casing

/-!
# Classification and conversion

Cases mix in a text if it is neither in lower case nor in upper case nor capitalized.  The classification
goes by the letters alone, and for a text of ASCII that is the same as comparing it with what the
conversions of a locale make of it: it has no capitals iff it is its own lower case (`eq_lower_iff`), no
small letters iff it is its own upper case (`eq_upper_iff`), and capitals nowhere but at its start iff it is
its lower case with the first letter in upper case (`eq_capitalizeFirst_lower_iff`).

A locale that capitalizes the digraph makes another text of a word that starts with it.  So there the two do
not agree on "IJsselmeer", in which cases mix though it is capitalized, nor on "Ijsselmeer", and they agree
on all other texts of ASCII (`isMixedCase_iff`).
-/

namespace Copyedit

-- what is checked of all of ASCII is checked of 128 characters in a row
set_option maxRecDepth 4000

namespace Text

variable {c : Char} {rest : Text}

/-- Cases mix in a text of ASCII with letters of both cases that is not capitalized. -/
theorem isMixedCase_cons_iff (h : ∀ d ∈ c :: rest, isAscii d = true) :
    isMixedCase (c :: rest) = true ↔
      (∃ d ∈ c :: rest, isAsciiUpper d = true) ∧ (∃ d ∈ c :: rest, isAsciiLower d = true) ∧
        ¬ (isAsciiUpper c = true ∧ ∀ d ∈ rest, isAsciiUpper d = false) := by
  have hother : ∀ d ∈ c :: rest, isOtherLetter d = isAsciiUpper d :=
    fun d hd => isOtherLetter_of_isAscii d (h d hd)
  have hlower : ∀ d ∈ c :: rest, isLowerLetter d = isAsciiLower d :=
    fun d hd => isLowerLetter_of_isAscii d (h d hd)
  have hcapitals : (c :: rest).any isOtherLetter = true ↔ ∃ d ∈ c :: rest, isAsciiUpper d = true := by
    rw [List.any_eq_true]
    exact exists_congr fun d => and_congr_right fun hd => by rw [hother d hd]
  have hsmall : isAllUpper (c :: rest) = false ↔ ∃ d ∈ c :: rest, isAsciiLower d = true := by
    rw [isAllUpper, List.isEmpty_cons, Bool.not_false, Bool.true_and, Bool.not_eq_false', List.any_eq_true]
    exact exists_congr fun d => and_congr_right fun hd => by rw [hlower d hd]
  have hcapitalized : isCapitalized (c :: rest) = true ↔
      isAsciiUpper c = true ∧ ∀ d ∈ rest, isAsciiUpper d = false := by
    rw [isCapitalized, Bool.and_eq_true, isUpper_of_isAscii c (h c List.mem_cons_self),
      Bool.not_eq_true', List.any_eq_false]
    refine and_congr_right fun _ => forall_congr' fun d => imp_congr_right fun hd => ?_
    rw [hother d (List.mem_cons_of_mem c hd), Bool.not_eq_true]
  rw [isMixedCase, Bool.and_eq_true, Bool.and_eq_true, Bool.not_eq_true', Bool.not_eq_true',
    hcapitals, hsmall, ← Bool.not_eq_true, hcapitalized, and_assoc]

end Text

namespace Locale

variable {l : Locale} {t : Text}

/-! ### Letters that stay as they are -/

theorem lowerLetter_eq_self_iff (turkic : Bool) :
    ∀ c, isAscii c = true → (lowerLetter turkic c = c ↔ isAsciiUpper c = false) :=
  forall_isAscii (by cases turkic <;> decide)

theorem upperLetter_eq_self_iff (turkic : Bool) :
    ∀ c, isAscii c = true → (upperLetter turkic c = c ↔ isAsciiLower c = false) :=
  forall_isAscii (by cases turkic <;> decide)

/-- The small letter of a capital has the same capital. -/
theorem upperLetter_lowerLetter_of_isAscii (turkic : Bool) :
    ∀ c, isAscii c = true → upperLetter turkic (lowerLetter turkic c) = upperLetter turkic c :=
  forall_isAscii (by cases turkic <;> decide)

/-- A letter leads to the same small letter as its capital. -/
theorem lowerLetter_upperLetter_of_isAscii (turkic : Bool) :
    ∀ c, isAscii c = true → lowerLetter turkic (upperLetter turkic c) = lowerLetter turkic c :=
  forall_isAscii (by cases turkic <;> decide)

/-- In lower case, a letter of ASCII is one of ASCII or a small letter. -/
theorem isAscii_or_isSmall_lowerLetter (turkic : Bool) : ∀ c, isAscii c = true →
    isAscii (lowerLetter turkic c) = true ∨ isSmall turkic (lowerLetter turkic c) = true :=
  forall_isAscii (by cases turkic <;> decide)

/-! ### Texts that stay as they are -/

section Ascii

variable (h : ∀ c ∈ t, isAscii c = true)

include h

theorem lower_ascii : l.lower t = t.map (lowerLetter l.isTurkic) :=
  lower_eq_map_lowerLetter fun c hc => .inl (h c hc)

/-- A text of ASCII is in lower case iff it has no capitals. -/
theorem eq_lower_iff : t = l.lower t ↔ ∀ c ∈ t, isAsciiUpper c = false := by
  rw [lower_ascii h, eq_comm]
  conv_lhs => rhs; rw [← List.map_id t]
  rw [List.map_inj_left]
  exact forall_congr' fun c => imp_congr_right fun hc => lowerLetter_eq_self_iff _ c (h c hc)

/-- It is in upper case iff it has no small letters. -/
theorem eq_upper_iff : t = l.upper t ↔ ∀ c ∈ t, isAsciiLower c = false := by
  rw [upper_eq_map_upperLetter fun c hc => .inl (h c hc), eq_comm]
  conv_lhs => rhs; rw [← List.map_id t]
  rw [List.map_inj_left]
  exact forall_congr' fun c => imp_congr_right fun hc => upperLetter_eq_self_iff _ c (h c hc)

end Ascii

/-- It is its lower case with the first letter in upper case iff it does not start with a small letter and has
no capitals further on. -/
theorem eq_capitalizeFirst_lower_iff {c : Char} {rest : Text} (h : ∀ d ∈ c :: rest, isAscii d = true) :
    c :: rest = l.capitalizeFirst (l.lower (c :: rest)) ↔
      isAsciiLower c = false ∧ ∀ d ∈ rest, isAsciiUpper d = false := by
  obtain ⟨hc, hrest⟩ := List.forall_mem_cons.mp h
  have hfirst : l.upper [lowerLetter l.isTurkic c] = [upperLetter l.isTurkic c] := by
    rw [upper_eq_map_upperLetter (List.forall_mem_singleton.mpr (isAscii_or_isSmall_lowerLetter _ c hc)),
      List.map_singleton, upperLetter_lowerLetter_of_isAscii _ c hc]
  rw [lower_ascii h, List.map_cons, capitalizeFirst, hfirst, ← lower_ascii hrest, List.singleton_append,
    List.cons_eq_cons, eq_lower_iff hrest, eq_comm, upperLetter_eq_self_iff _ c hc]

/-- Cases mix in a text of ASCII iff it is neither in lower case nor in upper case, nor in lower case with the
first letter in upper case. -/
theorem isMixedCase_iff_capitalizeFirst (h : ∀ c ∈ t, isAscii c = true) :
    t.isMixedCase = true ↔
      t ≠ [] ∧ t ≠ l.lower t ∧ t ≠ l.upper t ∧ t ≠ l.capitalizeFirst (l.lower t) := by
  cases t with
  | nil => exact iff_of_false Bool.false_ne_true fun hne => hne.1 rfl
  | cons c rest =>
    have hlower : isAsciiUpper c = true → isAsciiLower c = false := by
      intro hupper
      rw [← Bool.not_eq_true]
      intro hc
      rw [isAsciiUpper_of_isAsciiLower c hc] at hupper
      cases hupper
    -- if there are no capitals after the first character, this one is a capital or there is none
    have hfirst : (∃ d ∈ c :: rest, isAsciiUpper d = true) → (∀ d ∈ rest, isAsciiUpper d = false) →
        isAsciiUpper c = true := by
      rintro ⟨d, hd, hupper⟩ hnone
      rcases List.mem_cons.mp hd with rfl | hd
      · exact hupper
      · rw [hnone d hd] at hupper
        cases hupper
    rw [Text.isMixedCase_cons_iff h, ne_eq, ne_eq, ne_eq, ne_eq, eq_lower_iff h, eq_upper_iff h,
      eq_capitalizeFirst_lower_iff h]
    simp only [reduceCtorEq, not_false_eq_true, true_and, not_forall, Bool.not_eq_false, exists_prop]
    refine and_congr_right fun hcapital => and_congr_right fun _ => not_congr ?_
    exact and_congr_left fun hnone => iff_of_true (hfirst hcapital hnone) (hlower (hfirst hcapital hnone))

/-! ### The digraph -/

/-- The texts that the classification and the locale take differently: where the digraph is capitalized as a
whole, a word that starts with it, has no other capitals, and has only the first letter of the digraph in
upper case, or both before small letters. -/
def PartsDigraph (l : Locale) (t : Text) : Prop :=
  l.hasDigraph = true ∧ ∃ rest : Text, (∀ c ∈ rest, isAsciiUpper c = false) ∧
    (t = 'I' :: 'j' :: rest ∨ t = 'I' :: 'J' :: rest ∧ ∃ c ∈ rest, isAsciiLower c = true)

/-- Where the digraph is capitalized as a whole, lower case starts with it iff the text does, in either case of
its letters. -/
theorem digraph_begins_lower_iff (hdigraph : l.hasDigraph = true) (h : ∀ c ∈ t, isAscii c = true) :
    ['i', 'j'] <+: l.lower t ↔ ∃ a b rest, t = a :: b :: rest ∧ (a = 'i' ∨ a = 'I') ∧ (b = 'j' ∨ b = 'J') := by
  have hi : ∀ c, isAscii c = true → (lowerLetter false c = 'i' ↔ c = 'i' ∨ c = 'I') :=
    forall_isAscii (by decide)
  have hj : ∀ c, isAscii c = true → (lowerLetter false c = 'j' ↔ c = 'j' ∨ c = 'J') :=
    forall_isAscii (by decide)
  rw [lower_ascii h, isTurkic_of_hasDigraph hdigraph]
  rcases t with _ | ⟨a, _ | ⟨b, rest⟩⟩
  · simp
  · simp
  · have ha := hi a (h a (by simp))
    have hb := hj b (h b (by simp))
    simp [eq_comm (a := 'i'), eq_comm (a := 'j'), ha, hb]

/-- Where the digraph is capitalized as a whole, and the text starts with it in either case, the two ways to
capitalize tell it apart from its forms alike unless it parts the digraph. -/
theorem ne_capitalize_iff_of_digraph (hdigraph : l.hasDigraph = true) (hbegins : ['i', 'j'] <+: l.lower t)
    (h : ∀ c ∈ t, isAscii c = true) :
    ((t ≠ [] ∧ t ≠ l.lower t ∧ t ≠ l.upper t ∧ t ≠ l.capitalizeFirst (l.lower t)) ↔
      (t ≠ [] ∧ t ≠ l.lower t ∧ t ≠ l.upper t ∧ t ≠ l.capitalize (l.lower t))) ↔ ¬ l.PartsDigraph t := by
  obtain ⟨a, b, rest, rfl, ha, hb⟩ := (digraph_begins_lower_iff hdigraph h).mp hbegins
  have hrest : ∀ c ∈ rest, isAscii c = true :=
    fun c hc => h c (List.mem_cons_of_mem a (List.mem_cons_of_mem b hc))
  have hlower : l.lower (a :: b :: rest) = 'i' :: 'j' :: l.lower rest := by
    rw [lower_ascii h, lower_ascii hrest, isTurkic_of_hasDigraph hdigraph]
    rcases ha with rfl | rfl <;> rcases hb with rfl | rfl <;> rfl
  have hupper : a :: b :: rest = l.upper (a :: b :: rest) ↔
      ∀ c ∈ a :: b :: rest, isAsciiLower c = false := eq_upper_iff h
  have hcapitals : rest = l.lower rest ↔ ∀ c ∈ rest, isAsciiUpper c = false := eq_lower_iff hrest
  rw [hlower, capitalizeFirst_digraph hdigraph, capitalize_digraph hdigraph]
  simp only [ne_eq, hupper, List.cons_eq_cons, hcapitals, PartsDigraph, hdigraph, true_and]
  have hI : isAsciiLower 'I' = false := by decide
  have hJ : isAsciiLower 'J' = false := by decide
  have hj : isAsciiLower 'j' = true := by decide
  -- a small first letter keeps both apart from the text; after a capital one, the text may be one of them
  rcases ha with rfl | rfl <;> rcases hb with rfl | rfl
  · simp
  · simp
  · simp [hj]
  · -- the text is not in upper case iff there are small letters behind the digraph
    have hsmall : (∀ c ∈ 'I' :: 'J' :: rest, isAsciiLower c = false) ↔ ∀ c ∈ rest, isAsciiLower c = false := by
      simp [hI, hJ]
    rw [hsmall]
    grind

/-- What parts the digraph starts with it. -/
theorem PartsDigraph.begins (hparts : l.PartsDigraph t) (h : ∀ c ∈ t, isAscii c = true) :
    l.hasDigraph = true ∧ ['i', 'j'] <+: l.lower t := by
  obtain ⟨hdigraph, rest, -, hform⟩ := hparts
  refine ⟨hdigraph, (digraph_begins_lower_iff hdigraph h).mpr ?_⟩
  rcases hform with rfl | ⟨rfl, -⟩
  · exact ⟨'I', 'j', rest, rfl, .inr rfl, .inl rfl⟩
  · exact ⟨'I', 'J', rest, rfl, .inr rfl, .inr rfl⟩

/-- **Classification and conversion.**  Cases mix in a text of ASCII iff it is neither in lower case nor in upper
case, nor in lower case with the first letter in upper case.  In a locale they mix iff the text is not capitalized
as the locale does it either, except in a text that parts the digraph, where just one of the two holds. -/
theorem isMixedCase_iff (l : Locale) {t : Text} (h : ∀ c ∈ t, isAscii c = true) :
    (t.isMixedCase = true ↔
      t ≠ [] ∧ t ≠ l.lower t ∧ t ≠ l.upper t ∧ t ≠ l.capitalizeFirst (l.lower t)) ∧
    ((t.isMixedCase = true ↔ t ≠ [] ∧ t ≠ l.lower t ∧ t ≠ l.upper t ∧ t ≠ l.capitalize (l.lower t)) ↔
      ¬ l.PartsDigraph t) := by
  have hfirst := isMixedCase_iff_capitalizeFirst (l := l) h
  refine ⟨hfirst, ?_⟩
  rw [hfirst]
  by_cases hstarts : l.hasDigraph = true ∧ ['i', 'j'] <+: l.lower t
  · obtain ⟨hdigraph, hbegins⟩ := hstarts
    exact ne_capitalize_iff_of_digraph hdigraph hbegins h
  · -- without the digraph the two capitalizations are one
    have hsame : l.capitalize (l.lower t) = l.capitalizeFirst (l.lower t) := capitalize_eq_capitalizeFirst hstarts
    have hnot : ¬ l.PartsDigraph t := fun hparts => hstarts (hparts.begins h)
    rw [hsame]
    exact iff_of_true Iff.rfl hnot

/-! ### A Dutch word -/

/-- "IJsselmeer" parts the digraph, "ijsselMeer" does not: cases mix in both, and only the second is not
capitalized either. -/
theorem isMixedCase_ijsselmeer :
    (∀ c ∈ "IJsselmeer".toList, isAscii c = true) ∧ (∀ c ∈ "ijsselMeer".toList, isAscii c = true) ∧
    dutch.PartsDigraph "IJsselmeer".toList ∧ ¬ dutch.PartsDigraph "ijsselMeer".toList ∧
    Text.isMixedCase "IJsselmeer".toList = true ∧ Text.isMixedCase "ijsselMeer".toList = true ∧
    "ijsselMeer".toList ≠ dutch.capitalize (dutch.lower "ijsselMeer".toList) := by
  have hfirst : ∀ c ∈ "IJsselmeer".toList, isAscii c = true := List.all_eq_true.mp (by rfl)
  have hsecond : ∀ c ∈ "ijsselMeer".toList, isAscii c = true := List.all_eq_true.mp (by rfl)
  have hnone : ∀ c ∈ "sselmeer".toList, isAsciiUpper c = false :=
    fun c hc => Bool.eq_false_iff.mpr (List.any_eq_false.mp (by rfl) c hc)
  have hparts : dutch.PartsDigraph "IJsselmeer".toList :=
    ⟨by decide +kernel, "sselmeer".toList, hnone, .inr ⟨rfl, 's', List.mem_cons_self, by decide⟩⟩
  have hnot : ¬ dutch.PartsDigraph "ijsselMeer".toList := by
    rintro ⟨-, rest, -, hform | ⟨hform, -⟩⟩
    · exact absurd (List.cons.inj hform).1 (by decide)
    · exact absurd (List.cons.inj hform).1 (by decide)
  have hmixed := (isMixedCase_iff dutch hfirst).1.mpr
    ⟨by decide +kernel, by decide +kernel, by decide +kernel, by decide +kernel⟩
  have hagree := (isMixedCase_iff dutch hsecond).2.mpr hnot
  have hmixed' : Text.isMixedCase "ijsselMeer".toList = true := by decide +kernel
  exact ⟨hfirst, hsecond, hparts, hnot, hmixed, hmixed', (hagree.mp hmixed').2.2.2⟩

/-- Cases may mix in a text that is capitalized as its locale does it, and need not mix in one that is in none of
the forms that the locale makes. -/
theorem exists_isMixedCase_capitalized : ∃ (l : Locale) (t t' : Text), (∀ c ∈ t ++ t', isAscii c = true) ∧
    t.isMixedCase = true ∧ t = l.capitalize (l.lower t) ∧
    t'.isMixedCase = false ∧ t' ≠ [] ∧ t' ≠ l.lower t' ∧ t' ≠ l.upper t' ∧ t' ≠ l.capitalize (l.lower t') :=
  ⟨dutch, "IJsselmeer".toList, "Ijsselmeer".toList, List.all_eq_true.mp (by rfl), by decide +kernel,
    by decide +kernel, by decide +kernel, by decide +kernel, by decide +kernel, by decide +kernel,
    by decide +kernel⟩

end Locale

end Copyedit
