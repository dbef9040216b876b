import Copyedit.Casing
import Copyedit.Proofs.Characters
import Copyedit.Proofs.Sequence
import Mathlib.Data.List.Basic

/-!
# The case of letters

In every locale the small ASCII letters have capitals, and upper and lower case lead from the ones to the
others and back, letter by letter (`lower_upper`, `upper_lower`).  In a Turkic locale i has the capital
İ, and I the small letter ı, so that these two count as a capital and as a small letter there.  Other
characters of ASCII stay as they are (`upperLetter_eq_self`, `lowerLetter_eq_self`).

`capitalizeFirst` puts the first letter alone into upper case; it is `capitalize` but for the Dutch
digraph (`capitalize_eq_capitalizeFirst`).  Of all scripts, an upper-case letter is its own upper case, so
that a text that starts with one is capitalized already (`capitalize_of_startsUpper`).

Of all characters, only the space has a space in its upper case (`eq_space_of_mem_upperOf`), so that a
text does not fall into more parts when it is capitalized (`space_mem_capitalize`).  Nor does it lose a
space in lower case, or by a change to its first letter.
-/

namespace Copyedit

-- what is checked of all of ASCII is checked of 128 characters in a row
set_option maxRecDepth 4000

/-- Whether a character is a lower-case ASCII letter. -/
def isAsciiLower (c : Char) : Bool := 'a' ≤ c && c ≤ 'z'

/-- Whether a character is an upper-case ASCII letter. -/
def isAsciiUpper (c : Char) : Bool := 'A' ≤ c && c ≤ 'Z'

theorem isAsciiLetter_iff {c : Char} :
    isAsciiLetter c = true ↔ isAsciiLower c = true ∨ isAsciiUpper c = true :=
  Bool.or_eq_true_iff

/-! ### Letters -/

section Letters

variable {P : Char → Prop}

theorem forall_isAsciiLower (h : ∀ n ∈ List.range' 97 26, P (Char.ofNat n)) (c : Char)
    (hc : isAsciiLower c = true) : P c := by
  rw [isAsciiLower, Bool.and_eq_true, decide_eq_true_eq, decide_eq_true_eq] at hc
  exact forall_char_range' h hc.1 (Nat.lt_succ_of_le hc.2)

theorem forall_isAsciiUpper (h : ∀ n ∈ List.range' 65 26, P (Char.ofNat n)) (c : Char)
    (hc : isAsciiUpper c = true) : P c := by
  rw [isAsciiUpper, Bool.and_eq_true, decide_eq_true_eq, decide_eq_true_eq] at hc
  exact forall_char_range' h hc.1 (Nat.lt_succ_of_le hc.2)

end Letters

theorem isLowerLetter_of_isAsciiLower : ∀ c, isAsciiLower c = true → Text.isLowerLetter c = true :=
  forall_isAsciiLower (by decide)

theorem isUpper_of_isAsciiLower : ∀ c, isAsciiLower c = true → isUpper c = false :=
  forall_isAsciiLower (by decide)

theorem isAsciiUpper_of_isAsciiLower : ∀ c, isAsciiLower c = true → isAsciiUpper c = false :=
  forall_isAsciiLower (by decide)

theorem isAscii_of_isAsciiLower : ∀ c, isAsciiLower c = true → isAscii c = true :=
  forall_isAsciiLower (by decide)

theorem isAscii_of_isAsciiLetter (c : Char) (hc : isAsciiLetter c = true) : isAscii c = true := by
  rcases isAsciiLetter_iff.mp hc with hlower | hupper
  · exact isAscii_of_isAsciiLower c hlower
  · exact forall_isAsciiUpper (P := (isAscii · = true)) (by decide) c hupper

/-- The letters of ASCII that are not lower case are the upper-case ones. -/
theorem isOtherLetter_of_isAscii : ∀ c, isAscii c = true → Text.isOtherLetter c = isAsciiUpper c :=
  forall_isAscii (by decide)

theorem isLowerLetter_of_isAscii : ∀ c, isAscii c = true → Text.isLowerLetter c = isAsciiLower c :=
  forall_isAscii (by decide)

theorem isUpper_of_isAscii : ∀ c, isAscii c = true → isUpper c = isAsciiUpper c :=
  forall_isAscii (by decide)

namespace Locale

/-- Whether a character is a small letter with a capital: an ASCII letter, or ı in a Turkic locale. -/
def isSmall (turkic : Bool) (c : Char) : Bool := isAsciiLower c || turkic && c == 'ı'

/-- Whether a character is the capital of a small letter: an ASCII letter, or İ in a Turkic locale. -/
def isCapital (turkic : Bool) (c : Char) : Bool := isAsciiUpper c || turkic && c == 'İ'

/-- The capital of a small letter. -/
def upperLetter (turkic : Bool) (c : Char) : Char :=
  if turkic && c == 'i' then 'İ' else if turkic && c == 'ı' then 'I' else c.toUpper

/-- The small letter of a capital. -/
def lowerLetter (turkic : Bool) (c : Char) : Char :=
  if turkic && c == 'İ' then 'i' else if turkic && c == 'I' then 'ı' else c.toLower

section Letters

variable {P : Bool → Char → Prop}

/-- What holds of the lower-case ASCII letters and of ı one by one holds of all small letters. -/
theorem forall_isSmall (h : ∀ n ∈ List.range' 97 26, ∀ turkic, P turkic (Char.ofNat n))
    (hdotless : P true 'ı') (turkic : Bool) (c : Char) (hc : isSmall turkic c = true) :
    P turkic c := by
  rw [isSmall, Bool.or_eq_true, Bool.and_eq_true, beq_iff_eq] at hc
  rcases hc with hc | ⟨rfl, rfl⟩
  · exact forall_isAsciiLower (P := fun c => ∀ turkic, P turkic c) h c hc turkic
  · exact hdotless

/-- What holds of the upper-case ASCII letters and of İ one by one holds of all capitals. -/
theorem forall_isCapital (h : ∀ n ∈ List.range' 65 26, ∀ turkic, P turkic (Char.ofNat n))
    (hdotted : P true 'İ') (turkic : Bool) (c : Char) (hc : isCapital turkic c = true) :
    P turkic c := by
  rw [isCapital, Bool.or_eq_true, Bool.and_eq_true, beq_iff_eq] at hc
  rcases hc with hc | ⟨rfl, rfl⟩
  · exact forall_isAsciiUpper (P := fun c => ∀ turkic, P turkic c) h c hc turkic
  · exact hdotted

end Letters

theorem isSmall_of_isAsciiLower {turkic : Bool} {c : Char} (hc : isAsciiLower c = true) :
    isSmall turkic c = true := by
  rw [isSmall, hc, Bool.true_or]

theorem isCapital_of_isAsciiUpper {turkic : Bool} {c : Char} (hc : isAsciiUpper c = true) :
    isCapital turkic c = true := by
  rw [isCapital, hc, Bool.true_or]

theorem isCapital_upperLetter :
    ∀ turkic c, isSmall turkic c = true → isCapital turkic (upperLetter turkic c) = true :=
  forall_isSmall (by decide) (by decide)

theorem lowerLetter_upperLetter :
    ∀ turkic c, isSmall turkic c = true → lowerLetter turkic (upperLetter turkic c) = c :=
  forall_isSmall (by decide) (by decide)

theorem isSmall_lowerLetter :
    ∀ turkic c, isCapital turkic c = true → isSmall turkic (lowerLetter turkic c) = true :=
  forall_isCapital (by decide) (by decide)

theorem upperLetter_lowerLetter :
    ∀ turkic c, isCapital turkic c = true → upperLetter turkic (lowerLetter turkic c) = c :=
  forall_isCapital (by decide) (by decide)

theorem lowerLetter_of_isSmall : ∀ turkic c, isSmall turkic c = true → lowerLetter turkic c = c :=
  forall_isSmall (by decide) (by decide)

theorem upperLetter_of_isCapital : ∀ turkic c, isCapital turkic c = true → upperLetter turkic c = c :=
  forall_isCapital (by decide) (by decide)

theorem isUpper_of_isSmall : ∀ turkic c, isSmall turkic c = true → isUpper c = false :=
  forall_isSmall (by decide) (by decide)

theorem isUpper_of_isCapital : ∀ turkic c, isCapital turkic c = true → isUpper c = true :=
  forall_isCapital (by decide) (by decide)

theorem isLowerLetter_of_isCapital :
    ∀ turkic c, isCapital turkic c = true → Text.isLowerLetter c = false :=
  forall_isCapital (by decide) (by decide)

theorem isAsciiLower_of_isCapital : ∀ turkic c, isCapital turkic c = true → isAsciiLower c = false :=
  forall_isCapital (by decide) (by decide)

/-- No other character of ASCII has a capital. -/
theorem upperLetter_eq_self (turkic : Bool) :
    ∀ c, isAscii c = true → isAsciiLower c = false → upperLetter turkic c = c :=
  forall_isAscii (by cases turkic <;> decide)

/-- Nor is any other the capital of a letter. -/
theorem lowerLetter_eq_self (turkic : Bool) :
    ∀ c, isAscii c = true → isAsciiUpper c = false → lowerLetter turkic c = c :=
  forall_isAscii (by cases turkic <;> decide)

end Locale

/-! ### Texts -/

namespace Text

variable {t : Text} {f g : Char → Char}

theorem isAllUpper_iff : t.isAllUpper = true ↔ t ≠ [] ∧ ∀ c ∈ t, isLowerLetter c = false := by
  simp [isAllUpper]

/-- A text with a lower-case letter is not in upper case. -/
theorem isAllUpper_eq_false {c : Char} (hmem : c ∈ t) (hc : isLowerLetter c = true) :
    t.isAllUpper = false := by
  rw [← Bool.not_eq_true, isAllUpper_iff]
  rintro ⟨-, hall⟩
  rw [hall c hmem] at hc
  cases hc

theorem upper_map_eq_map (h : ∀ c ∈ t, upperOf (f c) = [g c]) : upper (t.map f) = t.map g := by
  rw [upper, List.flatMap_map, List.map_eq_flatMap]
  exact List.flatMap_congr h

theorem lowerAfter_eq_flatMap (seen t : Text) (h : 'Σ' ∉ t) :
    lowerAfter seen t = t.flatMap lowerOf := by
  induction t generalizing seen with
  | nil => rfl
  | cons c t ih =>
    rw [List.mem_cons, not_or] at h
    rw [lowerAfter, if_neg (Ne.symm h.1), ih _ h.2, List.flatMap_cons]

/-- What a character has in lower case stands in the text in lower case. -/
theorem mem_lowerAfter {c d : Char} (hc : c ≠ 'Σ') (hd : d ∈ lowerOf c) (h : c ∈ t) (seen : Text) :
    d ∈ lowerAfter seen t := by
  induction t generalizing seen with
  | nil => exact absurd h List.not_mem_nil
  | cons c' rest ih =>
    rw [lowerAfter, List.mem_append]
    rcases List.mem_cons.mp h with rfl | h
    · rw [if_neg hc]
      exact .inl hd
    · exact .inr (ih h _)

/-- Without a capital sigma, lower case goes letter by letter. -/
theorem lower_map_eq_map (h : ∀ c ∈ t, f c ≠ 'Σ' ∧ lowerOf (f c) = [g c]) :
    lower (t.map f) = t.map g := by
  have hsigma : 'Σ' ∉ t.map f := by
    rw [List.mem_map]
    rintro ⟨c, hc, hf⟩
    exact (h c hc).1 hf
  rw [lower, lowerAfter_eq_flatMap [] _ hsigma, List.flatMap_map, List.map_eq_flatMap]
  exact List.flatMap_congr fun c hc => (h c hc).2

/-- In ASCII, it always does. -/
theorem lower_eq_map_toLower (h : ∀ c ∈ t, isAscii c = true) : lower t = t.map Char.toLower := by
  have hlower : ∀ c, isAscii c = true → c ≠ 'Σ' ∧ lowerOf c = [c.toLower] :=
    forall_isAscii (by decide)
  have hmap := lower_map_eq_map (f := id) fun c hc => hlower c (h c hc)
  rwa [List.map_id] at hmap

end Text

namespace Locale

variable {l : Locale} {t : Text}

/-- Letter by letter, the upper case of ASCII characters and small letters. -/
theorem upper_eq_map_upperLetter (h : ∀ c ∈ t, isAscii c = true ∨ isSmall l.isTurkic c = true) :
    l.upper t = t.map (upperLetter l.isTurkic) := by
  have hsmall : ∀ turkic c, isSmall turkic c = true →
      upperOf (if turkic = true ∧ c = 'i' then 'İ' else c) = [upperLetter turkic c] :=
    forall_isSmall (by decide) (by decide)
  have hascii : ∀ c, isAscii c = true → ∀ turkic : Bool,
      upperOf (if turkic = true ∧ c = 'i' then 'İ' else c) = [upperLetter turkic c] :=
    forall_isAscii (by decide)
  have hmap := Text.upper_map_eq_map fun c hc => (h c hc).elim (hascii c · l.isTurkic) (hsmall _ c)
  rw [← hmap, upper]
  cases l.isTurkic <;> simp [Text.replaceChar]

theorem upper_eq_map (h : ∀ c ∈ t, isSmall l.isTurkic c = true) :
    l.upper t = t.map (upperLetter l.isTurkic) :=
  upper_eq_map_upperLetter fun c hc => .inr (h c hc)

/-- What stands for a character when a text is put into lower case. -/
def beforeLower (turkic : Bool) (c : Char) : Char :=
  if turkic = true ∧ c = 'İ' then 'i' else if turkic = true ∧ c = 'I' then 'ı' else c

theorem lower_eq_lower_map (l : Locale) (t : Text) :
    l.lower t = Text.lower (t.map (beforeLower l.isTurkic)) := by
  unfold lower
  congr 1
  cases l.isTurkic with
  | false =>
    have hsame : beforeLower false = id := by
      funext c
      simp [beforeLower]
    rw [hsame, List.map_id]
    exact if_neg Bool.false_ne_true
  | true =>
    -- the two replacements are one, since the first makes nothing that the second looks for
    rw [if_pos rfl, Text.replaceChar, Text.replaceChar, List.map_map]
    refine List.map_congr_left fun c _ => ?_
    by_cases hI : c = 'I'
    · subst hI
      decide
    · simp [beforeLower, hI]

/-- Letter by letter, the lower case of ASCII characters, small letters and capitals. -/
theorem lower_eq_map_lowerLetter
    (h : ∀ c ∈ t, isAscii c = true ∨ isSmall l.isTurkic c = true ∨ isCapital l.isTurkic c = true) :
    l.lower t = t.map (lowerLetter l.isTurkic) := by
  have hascii : ∀ c, isAscii c = true → ∀ turkic : Bool,
      beforeLower turkic c ≠ 'Σ' ∧ lowerOf (beforeLower turkic c) = [lowerLetter turkic c] :=
    forall_isAscii (by decide)
  have hsmall : ∀ turkic c, isSmall turkic c = true →
      beforeLower turkic c ≠ 'Σ' ∧ lowerOf (beforeLower turkic c) = [lowerLetter turkic c] :=
    forall_isSmall (by decide) (by decide)
  have hcapital : ∀ turkic c, isCapital turkic c = true →
      beforeLower turkic c ≠ 'Σ' ∧ lowerOf (beforeLower turkic c) = [lowerLetter turkic c] :=
    forall_isCapital (by decide) (by decide)
  rw [lower_eq_lower_map]
  refine Text.lower_map_eq_map fun c hc => ?_
  rcases h c hc with hc | hc | hc
  · exact hascii c hc _
  · exact hsmall _ c hc
  · exact hcapital _ c hc

theorem lower_eq_map (h : ∀ c ∈ t, isCapital l.isTurkic c = true) :
    l.lower t = t.map (lowerLetter l.isTurkic) :=
  lower_eq_map_lowerLetter fun c hc => .inr (.inr (h c hc))

/-- Small letters stay as they are. -/
theorem lower_eq_self (h : ∀ c ∈ t, isSmall l.isTurkic c = true) : l.lower t = t := by
  rw [lower_eq_map_lowerLetter fun c hc => .inr (.inl (h c hc))]
  conv_rhs => rw [← List.map_id t]
  exact List.map_congr_left fun c hc => lowerLetter_of_isSmall _ c (h c hc)

theorem isCapital_of_mem_upper (h : ∀ c ∈ t, isSmall l.isTurkic c = true) :
    ∀ c ∈ l.upper t, isCapital l.isTurkic c = true := by
  rw [upper_eq_map h, List.forall_mem_map]
  exact fun c hc => isCapital_upperLetter _ c (h c hc)

theorem isSmall_of_mem_lower (h : ∀ c ∈ t, isCapital l.isTurkic c = true) :
    ∀ c ∈ l.lower t, isSmall l.isTurkic c = true := by
  rw [lower_eq_map h, List.forall_mem_map]
  exact fun c hc => isSmall_lowerLetter _ c (h c hc)

/-- Lower case leads back from upper case. -/
theorem lower_upper (h : ∀ c ∈ t, isSmall l.isTurkic c = true) : l.lower (l.upper t) = t := by
  rw [lower_eq_map (isCapital_of_mem_upper h), upper_eq_map h, List.map_map]
  conv_rhs => rw [← List.map_id t]
  exact List.map_congr_left fun c hc => lowerLetter_upperLetter _ c (h c hc)

/-- Upper case leads back from lower case. -/
theorem upper_lower (h : ∀ c ∈ t, isCapital l.isTurkic c = true) : l.upper (l.lower t) = t := by
  rw [upper_eq_map (isSmall_of_mem_lower h), lower_eq_map h, List.map_map]
  conv_rhs => rw [← List.map_id t]
  exact List.map_congr_left fun c hc => upperLetter_lowerLetter _ c (h c hc)

/-! ### The first letter -/

/-- The text with its first character alone in upper case, in any language. -/
def capitalizeFirst (l : Locale) : Text → Text
  | [] => []
  | c :: rest => l.upper [c] ++ rest

theorem capitalize_eq_capitalizeFirst (h : ¬ (l.hasDigraph = true ∧ ['i', 'j'] <+: t)) :
    l.capitalize t = l.capitalizeFirst t := by
  unfold capitalize
  split
  · rfl
  · rename_i rest
    rw [if_neg fun hdigraph => h ⟨hdigraph, List.prefix_append ['i', 'j'] rest⟩]
    rfl
  · rfl

theorem capitalize_digraph (h : l.hasDigraph = true) (rest : Text) :
    l.capitalize ('i' :: 'j' :: rest) = 'I' :: 'J' :: rest :=
  if_pos h

theorem capitalizeFirst_cons {c : Char} (hc : isSmall l.isTurkic c = true) (rest : Text) :
    l.capitalizeFirst (c :: rest) = upperLetter l.isTurkic c :: rest := by
  rw [capitalizeFirst, upper_eq_map (List.forall_mem_singleton.mpr hc)]
  rfl

theorem uncapitalize_cons {c : Char} (hc : isCapital l.isTurkic c = true) (rest : Text) :
    l.uncapitalize (c :: rest) = lowerLetter l.isTurkic c :: rest := by
  rw [uncapitalize, lower_eq_map (List.forall_mem_singleton.mpr hc)]
  rfl

theorem isTurkic_of_hasDigraph (h : l.hasDigraph = true) : l.isTurkic = false := by
  rw [hasDigraph, beq_iff_eq] at h
  rw [isTurkic, h]
  decide

/-- The first letter of the digraph alone has the usual capital. -/
theorem capitalizeFirst_digraph (h : l.hasDigraph = true) (rest : Text) :
    l.capitalizeFirst ('i' :: 'j' :: rest) = 'I' :: 'j' :: rest := by
  rw [capitalizeFirst_cons (isSmall_of_isAsciiLower (by decide)), isTurkic_of_hasDigraph h]
  rfl

theorem upper_digraph (h : l.hasDigraph = true) : l.upper ['i', 'j'] = ['I', 'J'] := by
  rw [upper, isTurkic_of_hasDigraph h]
  rfl

/-- A text that starts with a small letter starts with a capital when it is capitalized. -/
theorem exists_capitalize_cons {c : Char} (hc : isSmall l.isTurkic c = true) (rest : Text) :
    ∃ d rest', isCapital l.isTurkic d = true ∧ l.capitalize (c :: rest) = d :: rest' := by
  by_cases h : l.hasDigraph = true ∧ ['i', 'j'] <+: c :: rest
  · obtain ⟨hdigraph, after, hafter⟩ := h
    rw [← hafter]
    exact ⟨'I', 'J' :: after, isCapital_of_isAsciiUpper (by decide), capitalize_digraph hdigraph after⟩
  · rw [capitalize_eq_capitalizeFirst h, capitalizeFirst_cons hc]
    exact ⟨_, rest, isCapital_upperLetter _ c hc, rfl⟩

end Locale

/-! ### Upper-case letters -/

/-- The characters beyond ASCII with entries in the tables of upper-case counterparts. -/
def upperSources : List CodeRun :=
  toUpperRuns.map (·.run) ++ toUpperLong.map fun e => ⟨e.1, e.1, 1⟩

/-- An upper-case letter is its own upper-case counterpart. -/
theorem upperOf_of_isUpper {c : Char} (h : isUpper c = true) : upperOf c = [c] := by
  -- checked run by run, as there are too many letters to look each up in the tables
  have hapart : ∀ r' ∈ upperSources, ∀ r ∈ upperRuns, r.isApart r' = true := by
    have hupper : (upperRuns.map (·.first)).Pairwise (· ≤ ·) := List.isChain_iff_pairwise.mp (by decide +kernel)
    refine List.forall_mem_append.mpr ⟨?_, ?_⟩
    · exact CodeRun.isApart_of_areApart (List.isChain_iff_pairwise.mp (by decide +kernel)) hupper
        (by decide +kernel)
    · exact CodeRun.isApart_of_areApart (List.isChain_iff_pairwise.mp (by decide +kernel)) hupper
        (by decide +kernel)
  unfold isUpper at h
  split at h
  · exact forall_isAsciiUpper (P := fun c => upperOf c = [c]) (by decide) c h
  · rename_i hbeyond
    obtain ⟨r, hr, hmem⟩ := List.any_eq_true.mp h
    have hnot : ∀ r' ∈ upperSources, r'.contains c.toNat = false :=
      fun r' hr' => CodeRun.contains_of_isApart (hapart r' hr' r hr) hmem
    obtain ⟨hruns, hlong⟩ := List.forall_mem_append.mp hnot
    have hlookup : toUpperLong.lookup c.toNat = none := by
      rw [Option.eq_none_iff_forall_ne_some]
      intro parts hparts
      have hentry := hlong _ (List.mem_map_of_mem (mem_of_lookup_eq_some hparts))
      simp [CodeRun.contains] at hentry
    have hfind : toUpperRuns.findSome? (·.image? c.toNat) = none := by
      refine List.findSome?_eq_none_iff.mpr fun r' hr' => if_neg ?_
      rw [hruns _ (List.mem_map_of_mem hr')]
      exact Bool.false_ne_true
    rw [upperOf, if_neg hbeyond, hlookup, hfind]
    rfl

namespace Locale

variable {l : Locale} {t : Text} {c : Char}

theorem upper_singleton_of_isUpper (h : isUpper c = true) : l.upper [c] = [c] := by
  have hi : c ≠ 'i' := by
    rintro rfl
    revert h
    decide
  have hsame : Text.replaceChar 'i' 'İ' [c] = [c] := by simp [Text.replaceChar, hi]
  rw [upper, hsame, ite_self, Text.upper, List.flatMap_singleton, upperOf_of_isUpper h]

/-- A text that starts with an upper-case letter is capitalized as it is. -/
theorem capitalize_of_startsUpper (h : t.startsUpper = true) : l.capitalize t = t := by
  have hdigraph : ¬ (l.hasDigraph = true ∧ ['i', 'j'] <+: t) := by
    rintro ⟨-, rest, rfl⟩
    have hi : isUpper 'i' = true := h
    revert hi
    decide
  rw [capitalize_eq_capitalizeFirst hdigraph]
  cases t with
  | nil => rfl
  | cons c rest => rw [capitalizeFirst, upper_singleton_of_isUpper h, List.singleton_append]

end Locale

/-! ### Spaces -/

theorem ofNat_eq_space {n : Nat} (h : Char.ofNat n = ' ') : n = 32 := by
  by_cases hvalid : n.isValidChar
  · rw [Char.ofNat, dif_pos hvalid] at h
    exact congrArg Char.toNat h
  · rw [Char.ofNat, dif_neg hvalid] at h
    exact absurd h (by decide)

/-- No other character has a space in its upper-case counterpart. -/
theorem eq_space_of_mem_upperOf {c : Char} (h : ' ' ∈ upperOf c) : c = ' ' := by
  -- a space is none of the parts in the table, and comes before all targets of the runs
  have hlong : ∀ e ∈ toUpperLong, 32 ∉ e.2 := by decide
  have hruns : ∀ r ∈ toUpperRuns, 32 < r.target := by decide +kernel
  unfold upperOf at h
  split at h
  · split at h
    · rename_i hletter
      rw [Bool.and_eq_true, decide_eq_true_eq, decide_eq_true_eq] at hletter
      have hfirst : 97 ≤ c.toNat := hletter.1
      have hcode := ofNat_eq_space (List.mem_singleton.mp h).symm
      omega
    · exact (List.mem_singleton.mp h).symm
  · split at h
    · rename_i parts hlookup
      obtain ⟨n, hn, hspace⟩ := List.mem_map.mp h
      rw [ofNat_eq_space hspace] at hn
      exact absurd hn (hlong _ (mem_of_lookup_eq_some hlookup))
    · cases hrun : toUpperRuns.findSome? (·.image? c.toNat) with
      | none =>
        rw [hrun] at h
        exact (List.mem_singleton.mp h).symm
      | some n =>
        rw [hrun] at h
        obtain ⟨r, hr, himage⟩ := List.exists_of_findSome?_eq_some hrun
        unfold CaseRun.image? at himage
        split at himage
        · have hcode := ofNat_eq_space (List.mem_singleton.mp h).symm
          have htarget := hruns r hr
          rw [Option.some_inj] at himage
          omega
        · cases himage

namespace Locale

variable {l : Locale} {t : Text}

theorem space_mem_upper (h : ' ' ∈ l.upper t) : ' ' ∈ t := by
  unfold upper Text.upper at h
  obtain ⟨c, hc, hspace⟩ := List.mem_flatMap.mp h
  rw [eq_space_of_mem_upperOf hspace] at hc
  split at hc
  · obtain ⟨d, hd, hreplaced⟩ := List.mem_map.mp hc
    split at hreplaced
    · exact absurd hreplaced (by decide)
    · exact hreplaced ▸ hd
  · exact hc

theorem space_mem_capitalize (h : ' ' ∈ l.capitalize t) : ' ' ∈ t := by
  by_cases hdigraph : l.hasDigraph = true ∧ ['i', 'j'] <+: t
  · obtain ⟨hdigraph, rest, rfl⟩ := hdigraph
    have hcapital : ' ' ∈ 'I' :: 'J' :: rest := by
      rw [← capitalize_digraph hdigraph rest]
      exact h
    have hrest : ' ' ∈ rest := by simpa using hcapital
    exact List.mem_append_right ['i', 'j'] hrest
  · rw [capitalize_eq_capitalizeFirst hdigraph] at h
    cases t with
    | nil => exact h
    | cons c rest =>
      rcases List.mem_append.mp h with h | h
      · rw [List.mem_singleton.mp (space_mem_upper h)]
        exact List.mem_cons_self
      · exact List.mem_cons_of_mem c h

/-- Conversely, a space stays a space. -/
theorem space_mem_lower_of_mem (h : ' ' ∈ t) : ' ' ∈ l.lower t := by
  have hspace : beforeLower l.isTurkic ' ' = ' ' := by simp [beforeLower]
  rw [lower_eq_lower_map]
  apply Text.mem_lowerAfter (c := ' ') (by decide) (by decide)
  exact List.mem_map.mpr ⟨' ', h, hspace⟩

theorem space_mem_capitalize_of_mem (h : ' ' ∈ t) : ' ' ∈ l.capitalize t := by
  by_cases hdigraph : l.hasDigraph = true ∧ ['i', 'j'] <+: t
  · obtain ⟨hdigraph, rest, rfl⟩ := hdigraph
    have hrest : ' ' ∈ rest := by simpa using h
    rw [List.cons_append, List.cons_append, List.nil_append, capitalize_digraph hdigraph]
    exact List.mem_append_right ['I', 'J'] hrest
  · rw [capitalize_eq_capitalizeFirst hdigraph]
    cases t with
    | nil => exact h
    | cons c rest =>
      rw [capitalizeFirst, List.mem_append]
      rcases List.mem_cons.mp h with rfl | h
      · rw [upper_eq_map_upperLetter (List.forall_mem_singleton.mpr (.inl (by decide)))]
        cases l.isTurkic <;> exact .inl (by decide)
      · exact .inr h

theorem space_mem_uncapitalize_of_mem (h : ' ' ∈ t) : ' ' ∈ l.uncapitalize t := by
  cases t with
  | nil => exact h
  | cons c rest =>
    rw [uncapitalize, List.mem_append]
    rcases List.mem_cons.mp h with rfl | h
    · exact .inl (space_mem_lower_of_mem (List.mem_singleton_self ' '))
    · exact .inr h

end Locale

end Copyedit
