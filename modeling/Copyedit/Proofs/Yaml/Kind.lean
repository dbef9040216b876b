import Copyedit.Proofs.Yaml.Lexer
import Copyedit.Value.Show
import Copyedit.Yaml.Value

/-!
# Words as scalars

A word that is written plainly is a truth value, nothing or a text, and no number or date: those start with a
digit, a sign or a point (`IsWord.ofPlain_eq`).  What it stands for is a value that is shown in one way for
all ways to write it (`meaningOf`, `IsWord.isScalarOf`).  So most words mean themselves, but 19 do not
(`meaningOf_eq_self_iff`).
-/

namespace Copyedit.Yaml

/-! ### Meanings -/

/-- The words that say yes. -/
def affirmatives : List String := ["yes", "Yes", "YES", "true", "True", "TRUE", "on", "On", "ON"]

/-- The words that say no. -/
def negatives : List String := ["no", "No", "NO", "false", "False", "FALSE", "off", "Off", "OFF"]

/-- The words that say nothing. -/
def nothings : List String := ["null", "Null", "NULL"]

/-- What a word means, written out. -/
def meaningOf (w : Text) : Text :=
  if ∃ n ∈ affirmatives, w = n.toList then "True".toList
  else if ∃ n ∈ negatives, w = n.toList then "False".toList
  else if ∃ n ∈ nothings, w = n.toList then "None".toList
  else w

/-- The words that mean another word. -/
def ambiguous : List String :=
  ["yes", "Yes", "YES", "true", "TRUE", "on", "On", "ON", "no", "No", "NO", "false", "FALSE", "off", "Off",
    "OFF", "null", "Null", "NULL"]

theorem meaningOf_eq_self_iff (w : Text) : meaningOf w = w ↔ ∀ n ∈ ambiguous, w ≠ n.toList := by
  by_cases hyes : ∃ n ∈ affirmatives, w = n.toList
  · obtain ⟨n, hn, rfl⟩ := hyes
    revert n
    decide
  by_cases hno : ∃ n ∈ negatives, w = n.toList
  · obtain ⟨n, hn, rfl⟩ := hno
    clear hyes
    revert n
    decide
  by_cases hnothing : ∃ n ∈ nothings, w = n.toList
  · obtain ⟨n, hn, rfl⟩ := hnothing
    clear hyes hno
    revert n
    decide
  have hnot : ∀ n ∈ ambiguous, n ∈ affirmatives ∨ n ∈ negatives ∨ n ∈ nothings := by decide
  have hself : meaningOf w = w := by
    unfold meaningOf
    rw [if_neg hyes, if_neg hno, if_neg hnothing]
  refine iff_of_true hself fun n hn heq => ?_
  rcases hnot n hn with hn | hn | hn
  · exact hyes ⟨n, hn, heq⟩
  · exact hno ⟨n, hn, heq⟩
  · exact hnothing ⟨n, hn, heq⟩

theorem truthOf_affirmative : ∀ n ∈ affirmatives, truthOf n.toList = .ok true := by
  have hlower : ∀ n ∈ affirmatives,
      (["yes", "true", "on"].any fun w => Text.lower n.toList = w.toList) = true := by
    decide
  exact fun n hn => if_pos (hlower n hn)

theorem truthOf_negative : ∀ n ∈ negatives, truthOf n.toList = .ok false := by
  have hlower : ∀ n ∈ negatives, (["yes", "true", "on"].any fun w => Text.lower n.toList = w.toList) = false ∧
      (["no", "false", "off"].any fun w => Text.lower n.toList = w.toList) = true := by
    decide
  intro n hn
  obtain ⟨hyes, hno⟩ := hlower n hn
  exact (if_neg (Bool.eq_false_iff.mp hyes)).trans (if_pos hno)

/-- The truth values are the words that say yes or no. -/
theorem isTruthText_iff (t : Text) :
    isTruthText t = true ↔ (∃ n ∈ affirmatives, t = n.toList) ∨ ∃ n ∈ negatives, t = n.toList := by
  have hread : ∀ n ∈ ["yes", "Yes", "YES", "no", "No", "NO", "true", "True", "TRUE", "false", "False",
      "FALSE", "on", "On", "ON", "off", "Off", "OFF"], n ∈ affirmatives ∨ n ∈ negatives := by
    decide
  have hyes : ∀ n ∈ affirmatives, isTruthText n.toList = true := by decide
  have hno : ∀ n ∈ negatives, isTruthText n.toList = true := by decide
  constructor
  · intro h
    obtain ⟨n, hn, heq⟩ := List.any_eq_true.mp h
    exact (hread n hn).imp (⟨n, ·, of_decide_eq_true heq⟩) (⟨n, ·, of_decide_eq_true heq⟩)
  · rintro (⟨n, hn, rfl⟩ | ⟨n, hn, rfl⟩)
    · exact hyes n hn
    · exact hno n hn

/-! ### Kinds -/

/-- A scalar of a kind stands for a value. -/
structure IsScalarOf (k : Kind) (t : Text) (v : Value) : Prop where
  /-- The kind is none of lists and mappings. -/
  empty?_eq : Made.empty? k = none
  /-- Nor is it one of marks. -/
  notMem : k ∉ [Kind.merge, .default, .unknown]
  /-- The text stands for the value. -/
  value_eq : scalarValue k t = .ok v

theorem isDigitChar_of_isAsciiLetter {c : Char} (hc : isAsciiLetter c = true) : isDigitChar c = false := by
  have hcode := toNat_of_isAsciiLetter hc
  have hnine : '9'.val.toNat = 57 := rfl
  have hvalue : c.toNat = c.val.toNat := rfl
  simp only [isDigitChar, Char.le_def, UInt32.le_iff_toNat_le, Bool.and_eq_false_iff, decide_eq_false_iff_not]
  omega

namespace IsWord

variable {w : Text} (hw : IsWord w)
include hw

theorem withoutFinalBreak_eq : withoutFinalBreak w = w := by
  unfold withoutFinalBreak
  refine if_neg fun hlast => ?_
  exact ne_of_isAsciiLetter (hw.letters _ (List.mem_of_getLast? hlast)) (by decide) rfl

theorem withoutSign_eq : withoutSign w = w := by
  obtain ⟨c, t, rfl, hc⟩ := hw.exists_cons
  have hplus : c ≠ '+' := ne_of_isAsciiLetter hc (by decide)
  have hminus : c ≠ '-' := ne_of_isAsciiLetter hc (by decide)
  simp [withoutSign, hplus, hminus]

theorem isFloatText_eq : isFloatText w = false := by
  unfold isFloatText
  rw [hw.withoutSign_eq]
  obtain ⟨c, t, rfl, hc⟩ := hw.exists_cons
  have hpoint : c ≠ '.' := ne_of_isAsciiLetter hc (by decide)
  simp [hpoint, isDigitChar_of_isAsciiLetter hc]

theorem isIntText_eq : isIntText w = false := by
  unfold isIntText
  rw [hw.withoutSign_eq]
  obtain ⟨c, t, rfl, hc⟩ := hw.exists_cons
  have hzero : c ≠ '0' := ne_of_isAsciiLetter hc (by decide)
  simp [hzero, isDigitChar_of_isAsciiLetter hc]

theorem isTimeText_eq : isTimeText w = false := by
  obtain ⟨c, t, rfl, hc⟩ := hw.exists_cons
  have hdigits : digits? 4 4 (c :: t) = none := by
    simp [digits?, isDigitChar_of_isAsciiLetter hc]
  have hparts : timeParts? (c :: t) = none := by
    simp [timeParts?, hdigits]
  simp [isTimeText, hparts]

/-- A word is a truth value, nothing or a text. -/
theorem ofPlain_eq : Kind.ofPlain w =
    if isTruthText w then .bool else if isNullText w then .null else .text := by
  have hmarks : ∀ d ∈ ['\n', '<', '=', '!', '&', '*'], ∀ t, w ≠ d :: t := by
    intro d hd t heq
    have hletter := hw.letters d (heq ▸ List.mem_cons_self)
    exact notMem_of_isAsciiLetter hletter (by decide) hd
  simp [Kind.ofPlain, hw.withoutFinalBreak_eq, hw.isFloatText_eq, hw.isIntText_eq, hw.isTimeText_eq, hmarks]

theorem isNullText_iff : isNullText w = true ↔ ∃ n ∈ nothings, w = n.toList := by
  have htilde : w ≠ "~".toList := by
    rintro rfl
    exact absurd (hw.letters '~' (by decide)) (by decide)
  have hempty : w ≠ "".toList := hw.ne_nil
  simp only [isNullText, nothings, List.any_cons, List.any_nil, hempty, htilde]
  simp

/-- A word stands for a value that is shown as what it means. -/
theorem isScalarOf : ∃ v, IsScalarOf (Kind.ofPlain w) w v ∧ v.text? = .ok (String.ofList (meaningOf w)) := by
  have htruth := isTruthText_iff w
  have hnull := hw.isNullText_iff
  rw [hw.ofPlain_eq]
  by_cases hyes : ∃ n ∈ affirmatives, w = n.toList
  · obtain ⟨n, hn, heq⟩ := id hyes
    have hvalue : scalarValue .bool w = .ok (.bool true) := by
      unfold scalarValue
      rw [heq, truthOf_affirmative n hn]
      rfl
    rw [if_pos (htruth.mpr (.inl hyes)), meaningOf, if_pos hyes]
    exact ⟨.bool true, ⟨rfl, by decide, hvalue⟩, rfl⟩
  by_cases hno : ∃ n ∈ negatives, w = n.toList
  · obtain ⟨n, hn, heq⟩ := id hno
    have hvalue : scalarValue .bool w = .ok (.bool false) := by
      unfold scalarValue
      rw [heq, truthOf_negative n hn]
      rfl
    rw [if_pos (htruth.mpr (.inr hno)), meaningOf, if_neg hyes, if_pos hno]
    exact ⟨.bool false, ⟨rfl, by decide, hvalue⟩, rfl⟩
  rw [if_neg (fun h => (htruth.mp h).elim hyes hno)]
  by_cases hnothing : ∃ n ∈ nothings, w = n.toList
  · rw [if_pos (hnull.mpr hnothing), meaningOf, if_neg hyes, if_neg hno, if_pos hnothing]
    exact ⟨.null, ⟨rfl, by decide, rfl⟩, rfl⟩
  · rw [if_neg (fun h => hnothing (hnull.mp h)), meaningOf, if_neg hyes, if_neg hno, if_neg hnothing]
    exact ⟨.text (String.ofList w), ⟨rfl, by decide, rfl⟩, rfl⟩

end IsWord

end Copyedit.Yaml
