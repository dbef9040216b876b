import Copyedit.Proofs.Sequence
import Copyedit.Text.Basic
import Mathlib.Data.List.DropRight

/-!
# Trimming, and the parts of a text

Trimming removes blanks alone (`Text.exists_append_trim`), and blanks at the ends make no difference to what
is left (`Text.trim_cons_of_isBlank`, `Text.trim_concat_of_isBlank`).

The parts of a text are what stands between the occurrences of a character, trimmed, but for what is blank
(`Text.parts`).  They are taken one by one from the start (`Text.parts_eq`).  Blanks at the ends of the text make
no difference to its parts (`Text.parts_trim`), even where the character that separates them is blank itself: it
is the blank parts alone that change then.
-/

namespace Copyedit.Text

variable {sep c : Char} {s t lead trail : Text}

/-! ### Trimming -/

/-- A text has characters, and none is blank at an end. -/
def IsTrimmed (s : Text) : Prop :=
  ∃ h : s ≠ [], isBlank (s.head h) = false ∧ isBlank (s.getLast h) = false

theorem takeWhile_isBlank_append (t : Text) : t.takeWhile isBlank ++ t.trimStart = t :=
  List.takeWhile_append_dropWhile

theorem length_takeWhile_isBlank (t : Text) :
    (t.takeWhile isBlank).length = t.length - t.trimStart.length := by
  have h := congrArg List.length (takeWhile_isBlank_append t)
  rw [List.length_append] at h
  omega

theorem trim_append_rtakeWhile (t : Text) :
    t.trim ++ t.trimStart.rtakeWhile isBlank = t.trimStart :=
  List.rdropWhile_append_rtakeWhile ..

/-- Trimming removes blanks before and behind. -/
theorem exists_append_trim (t : Text) : ∃ lead trail, t = lead ++ (t.trim ++ trail) ∧
    lead.length = t.length - t.trimStart.length ∧
    (∀ c ∈ lead, isBlank c = true) ∧ ∀ c ∈ trail, isBlank c = true := by
  refine ⟨t.takeWhile isBlank, t.trimStart.rtakeWhile isBlank, ?_, length_takeWhile_isBlank t,
    fun c => List.mem_takeWhile_imp, fun c => List.mem_rtakeWhile_imp⟩
  rw [trim_append_rtakeWhile, takeWhile_isBlank_append]

theorem trim_eq_nil {t : Text} (h : t.trim = []) : ∀ c ∈ t, isBlank c = true := by
  obtain ⟨lead, trail, ht, -, hlead, htrail⟩ := exists_append_trim t
  rw [ht, h, List.nil_append]
  exact List.forall_mem_append.mpr ⟨hlead, htrail⟩

theorem isTrimmed_trim {t : Text} (h : t.trim ≠ []) : IsTrimmed t.trim := by
  refine ⟨h, ?_, Bool.eq_false_iff.mpr (List.rdropWhile_last_not isBlank t.trimStart h)⟩
  have hstart : t.trimStart ≠ [] := fun h' => h (by rw [trim, h']; rfl)
  have hhead : t.trim.head h = t.trimStart.head hstart :=
    List.IsPrefix.head (List.rdropWhile_prefix isBlank t.trimStart) h
  rw [hhead]
  exact List.head_dropWhile_not isBlank hstart

theorem trim_cons_of_isBlank (hc : isBlank c = true) (t : Text) : trim (c :: t) = t.trim := by
  unfold trim trimStart
  rw [List.dropWhile_cons_of_pos hc]

theorem trimEnd_concat_of_isBlank (hc : isBlank c = true) (t : Text) : trimEnd (t ++ [c]) = t.trimEnd := by
  unfold trimEnd dropEndWhile
  rw [List.reverse_concat, List.dropWhile_cons_of_pos hc]

theorem trim_concat_of_isBlank (hc : isBlank c = true) (t : Text) : trim (t ++ [c]) = t.trim := by
  unfold trim trimStart
  rw [List.dropWhile_append]
  split
  · rename_i hempty
    rw [List.isEmpty_iff.mp hempty, List.dropWhile_cons_of_pos hc, List.dropWhile_nil]
  · exact trimEnd_concat_of_isBlank hc _

/-! ### Before and behind a character -/

/-- The characters behind the first occurrence of a character; none if it does not occur. -/
def after (sep : Char) (t : Text) : Text := (t.dropWhile (· ≠ sep)).tail

theorem forall_ne_of_notMem (h : sep ∉ t) : ∀ c ∈ t, decide (c ≠ sep) = true :=
  fun _ hc => decide_eq_true (ne_of_mem_of_not_mem hc h)

theorem before_append_cons (h : sep ∉ s) (t : Text) : before sep (s ++ sep :: t) = s :=
  takeWhile_append_eq (forall_ne_of_notMem h) (eq_false_of_head? (by simp))

theorem after_append_cons (h : sep ∉ s) (t : Text) : after sep (s ++ sep :: t) = t :=
  congrArg List.tail (dropWhile_append_eq (forall_ne_of_notMem h) (eq_false_of_head? (by simp)))

theorem before_of_notMem (h : sep ∉ t) : t.before sep = t :=
  List.takeWhile_eq_self_iff.mpr (forall_ne_of_notMem h)

theorem after_of_notMem (h : sep ∉ t) : t.after sep = [] :=
  congrArg List.tail (List.dropWhile_eq_nil_iff.mpr (forall_ne_of_notMem h))

/-- A character that occurs once has a text before it and one behind it. -/
theorem exists_of_count_eq_one (h : t.count sep = 1) :
    ∃ left right, t = left ++ sep :: right ∧ sep ∉ left ∧ sep ∉ right := by
  have hmem : sep ∈ t := List.count_pos_iff.mp (by omega)
  obtain ⟨left, right, rfl, hleft⟩ := List.eq_append_cons_of_mem hmem
  rw [List.count_append, List.count_cons_self, List.count_eq_zero_of_not_mem hleft] at h
  exact ⟨left, right, rfl, hleft, List.count_eq_zero.mp (by omega)⟩

/-! ### Pieces -/

/-- A character that does not separate joins the first piece behind it. -/
theorem exists_splitAtChar_cons (h : c ≠ sep) (t : Text) : ∃ piece pieces,
    splitAtChar sep t = piece :: pieces ∧ splitAtChar sep (c :: t) = (c :: piece) :: pieces := by
  obtain ⟨piece, pieces, ht⟩ := List.exists_cons_of_ne_nil (splitAtChar_ne_nil sep t)
  refine ⟨piece, pieces, ht, ?_⟩
  rw [splitAtChar, if_neg h, ht]

/-- What a split yields before a separator and behind it does not depend on what stands on the other side. -/
theorem splitAtChar_append_sep (sep : Char) (s t : Text) :
    splitAtChar sep (s ++ sep :: t) = splitAtChar sep s ++ splitAtChar sep t := by
  induction s with
  | nil => exact if_pos rfl
  | cons c s ih =>
    by_cases hc : c = sep
    · rw [List.cons_append, splitAtChar, splitAtChar, if_pos hc, if_pos hc, ih, List.cons_append]
    · obtain ⟨piece, pieces, hs, hcons⟩ := exists_splitAtChar_cons hc s
      rw [List.cons_append, splitAtChar, if_neg hc, ih, hcons, hs]
      rfl

/-- There is one piece more than there are separators. -/
theorem length_splitAtChar (sep : Char) (t : Text) : (splitAtChar sep t).length = t.count sep + 1 := by
  induction t with
  | nil => rfl
  | cons c t ih =>
    by_cases hc : c = sep
    · rw [splitAtChar, if_pos hc, hc, List.count_cons_self, List.length_cons, ih]
    · obtain ⟨piece, pieces, ht, hcons⟩ := exists_splitAtChar_cons hc t
      rw [hcons, List.count_cons_of_ne hc, ← ih, ht]
      rfl

/-- What is put at the end of a text joins its last piece. -/
theorem exists_splitAtChar_append (h : sep ∉ trail) (t : Text) : ∃ pieces last,
    splitAtChar sep t = pieces ++ [last] ∧ splitAtChar sep (t ++ trail) = pieces ++ [last ++ trail] := by
  induction t with
  | nil => exact ⟨[], [], rfl, splitAtChar_of_notMem h⟩
  | cons c t ih =>
    obtain ⟨pieces, last, ht, happend⟩ := ih
    rw [List.cons_append, splitAtChar, splitAtChar, ht, happend]
    split
    · exact ⟨[] :: pieces, last, rfl, rfl⟩
    · cases pieces with
      | nil => exact ⟨[], c :: last, rfl, rfl⟩
      | cons piece pieces => exact ⟨(c :: piece) :: pieces, last, rfl, rfl⟩

/-! ### Parts -/

/-- The parts of a text between the occurrences of a character, trimmed; those that are blank are left out. -/
def parts (sep : Char) (t : Text) : List Text := ((t.splitAtChar sep).map trim).filter (!·.isEmpty)

theorem parts_append_sep (sep : Char) (s t : Text) : parts sep (s ++ sep :: t) = parts sep s ++ parts sep t := by
  unfold parts
  rw [splitAtChar_append_sep, List.map_append, List.filter_append]

/-- The pieces are what stands before the first separator, and those behind it. -/
theorem exists_splitAtChar_eq (sep : Char) (t : Text) : ∃ pieces,
    splitAtChar sep t = t.before sep :: pieces ∧ (pieces.map trim).filter (!·.isEmpty) = (t.after sep).parts sep := by
  by_cases hsep : sep ∈ t
  · obtain ⟨s, rest, rfl, hs⟩ := List.eq_append_cons_of_mem hsep
    rw [splitAtChar_append_cons hs, before_append_cons hs, after_append_cons hs]
    exact ⟨_, rfl, rfl⟩
  · rw [splitAtChar_of_notMem hsep, before_of_notMem hsep, after_of_notMem hsep]
    exact ⟨[], rfl, rfl⟩

/-- The first part is what stands before the separator, unless this is blank; the others are those behind it. -/
theorem parts_eq (sep : Char) (t : Text) :
    t.parts sep = if (t.before sep).trim = [] then (t.after sep).parts sep
      else (t.before sep).trim :: (t.after sep).parts sep := by
  obtain ⟨pieces, hpieces, hparts⟩ := exists_splitAtChar_eq sep t
  rw [← hparts, parts, hpieces, List.map_cons]
  split
  · rename_i hblank
    rw [hblank]
    rfl
  · rename_i hne
    exact List.filter_cons_of_pos (by simpa using hne)

theorem parts_cons_of_isBlank (hc : isBlank c = true) (t : Text) : parts sep (c :: t) = t.parts sep := by
  by_cases hsep : c = sep
  · subst hsep
    exact parts_append_sep c [] t
  · obtain ⟨piece, pieces, ht, hcons⟩ := exists_splitAtChar_cons hsep t
    unfold parts
    rw [hcons, ht, List.map_cons, List.map_cons, trim_cons_of_isBlank hc]

theorem parts_concat_of_isBlank (hc : isBlank c = true) (t : Text) : parts sep (t ++ [c]) = t.parts sep := by
  by_cases hsep : c = sep
  · -- one more separator makes one more piece, which is empty
    subst hsep
    rw [parts_append_sep]
    exact List.append_nil _
  · obtain ⟨pieces, last, ht, happend⟩ := exists_splitAtChar_append (mt List.mem_singleton.mp (Ne.symm hsep)) t
    unfold parts
    rw [ht, happend, List.map_append, List.map_append, List.map_singleton, List.map_singleton,
      trim_concat_of_isBlank hc]

theorem parts_append_of_isBlank (htrail : ∀ c ∈ trail, isBlank c = true) (t : Text) :
    parts sep (t ++ trail) = t.parts sep := by
  induction trail generalizing t with
  | nil => rw [List.append_nil]
  | cons c trail ih =>
    obtain ⟨hc, htrail⟩ := List.forall_mem_cons.mp htrail
    rw [List.append_cons, ih htrail, parts_concat_of_isBlank hc]

theorem parts_of_isBlank_append (hlead : ∀ c ∈ lead, isBlank c = true) (t : Text) :
    parts sep (lead ++ t) = t.parts sep := by
  induction lead with
  | nil => rfl
  | cons c lead ih =>
    obtain ⟨hc, hlead⟩ := List.forall_mem_cons.mp hlead
    rw [List.cons_append, parts_cons_of_isBlank hc, ih hlead]

/-- **Trimming** a text changes none of its parts. -/
theorem parts_trim (sep : Char) (t : Text) : t.trim.parts sep = t.parts sep := by
  obtain ⟨lead, trail, ht, -, hlead, htrail⟩ := exists_append_trim t
  conv_rhs => rw [ht]
  rw [parts_of_isBlank_append hlead, parts_append_of_isBlank htrail]

/-- Where the separator is blank itself, what stands before it in a trimmed text is not blank. -/
theorem before_trim_ne_nil (hsep : isBlank sep = true) (h : t.trim ≠ []) : (t.trim.before sep).trim ≠ [] := by
  obtain ⟨hne, hhead, -⟩ := isTrimmed_trim h
  obtain ⟨c, rest, hrest⟩ := List.exists_cons_of_ne_nil hne
  rw [hrest]
  have hc : isBlank c = false := by simpa only [hrest, List.head_cons] using hhead
  have hcsep : c ≠ sep := by
    rintro rfl
    rw [hc] at hsep
    cases hsep
  intro hblank
  rw [before, List.takeWhile_cons_of_pos (p := fun d => decide (d ≠ sep)) (decide_eq_true hcsep)] at hblank
  rw [trim_eq_nil hblank c List.mem_cons_self] at hc
  cases hc

/-- Where the separator is blank itself, only a blank text has no part. -/
theorem parts_eq_nil_iff (hsep : isBlank sep = true) : t.parts sep = [] ↔ t.trim = [] := by
  rw [← parts_trim]
  constructor
  · intro h
    by_contra hne
    rw [parts_eq, if_neg (before_trim_ne_nil hsep hne)] at h
    cases h
  · intro h
    rw [h]
    rfl

/-- No part is empty. -/
theorem ne_nil_of_mem_parts (h : s ∈ t.parts sep) : s ≠ [] := by
  have hne := (List.mem_filter.mp h).2
  simpa using hne

end Copyedit.Text
