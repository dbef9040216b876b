import Copyedit.Proofs.Sentence.Boundary
import Copyedit.Proofs.Sequence

/-!
# A text is divided into sentences in one way

What parts two sentences is said of the text up to a gap, the gap, and the visible character behind it: for
the sentences of a text, the gap holds a blank line or there are terminal marks before it and no lower-case
letter behind it (`Parts`).  A text is divided by a parting (`IsDivided`) into trimmed pieces that hold no
parting inside and have one behind them, and there is at most one such division (`IsDivided.unique`): were
one of two first pieces longer, the gap behind the shorter one would part it inside.

The sentences of a text are the pieces of its division (`sentences_isDivided`), so what else divides the
text yields the sentences.
-/

namespace Copyedit

namespace Text

/-- A gap behind terminal marks, and no lower-case letter behind the gap. -/
def PartsByMark (a gap : Text) (c : Char) : Prop :=
  gap ≠ [] ∧ EndsTerminally a ∧ isLower c = false

/-- A gap that parts two sentences: one with a blank line, or one behind terminal marks. -/
def Parts (a gap : Text) (c : Char) : Prop := HoldsBlankLine gap ∨ PartsByMark a gap c

theorem Parts.ne_nil {a gap : Text} {c : Char} (h : Parts a gap c) : gap ≠ [] := by
  rcases h with ⟨before, line, after, rfl, -⟩ | ⟨hne, -⟩
  · exact List.append_ne_nil_of_right_ne_nil _ (List.cons_ne_nil _ _)
  · exact hne

section Division

/-- No gap inside a text parts it. -/
def IsWhole (P : Text → Text → Char → Prop) (s : Text) : Prop :=
  ∀ a gap c b, s = a ++ (gap ++ c :: b) → (∀ d ∈ gap, isBlank d = true) → isBlank c = false →
    ¬ P a gap c

/-- The gap behind a text, if there is more behind it, parts the text from that. -/
def IsParted (P : Text → Text → Char → Prop) (s rest : Text) : Prop :=
  ∀ gap c b, rest = gap ++ c :: b → (∀ d ∈ gap, isBlank d = true) → isBlank c = false → P s gap c

/-- `IsDivided P p t pieces`: the text `t` at position `p` is divided into the pieces by what `P` says of a
text, the gap behind it and the visible character behind the gap. -/
inductive IsDivided (P : Text → Text → Char → Prop) : Int → Text → List Piece → Prop where
  /-- A blank text has no pieces. -/
  | blank {p : Int} {t : Text} : (∀ c ∈ t, isBlank c = true) → IsDivided P p t []
  /-- A piece is whole and parted from what follows it. -/
  | piece {p : Int} {gap w rest : Text} {ps : List Piece} : (∀ c ∈ gap, isBlank c = true) → IsTrimmed w →
      IsWhole P w → IsParted P w rest → IsDivided P (p + gap.length + w.length) rest ps →
      IsDivided P p (gap ++ (w ++ rest)) (⟨p + gap.length, w⟩ :: ps)

variable {P Q : Text → Text → Char → Prop} {s w w' rest rest' : Text}

theorem IsWhole.mono (h : IsWhole Q s) (hPQ : ∀ a gap c, P a gap c → Q a gap c) : IsWhole P s :=
  fun a gap c b hs hgap hc hP => h a gap c b hs hgap hc (hPQ a gap c hP)

/-- Nothing has to part a text from blanks. -/
theorem isParted_of_blank (h : ∀ c ∈ rest, isBlank c = true) : IsParted P s rest := by
  rintro gap c b rfl - hc
  rw [h c (by simp)] at hc
  cases hc

/-- A text is parted from what follows it at the gap that comes first. -/
theorem isParted_append_iff {gap : Text} {c : Char} (hgap : ∀ d ∈ gap, isBlank d = true)
    (hc : isBlank c = false) : IsParted P s (gap ++ c :: rest) ↔ P s gap c := by
  refine ⟨fun h => h gap c rest rfl hgap hc, fun h gap' c' b heq hgap' hc' => ?_⟩
  obtain ⟨rfl, rfl, -⟩ := append_cons_inj heq hgap hc hgap' hc'
  exact h

/-- Each end of a trimmed text starts with a gap and a visible character. -/
theorem IsTrimmed.exists_gap {front back : Text} (h : IsTrimmed (front ++ back)) (hne : back ≠ []) :
    ∃ gap c b, back = gap ++ c :: b ∧ (∀ d ∈ gap, isBlank d = true) ∧ isBlank c = false := by
  rcases forall_or_exists_first isBlank back with hblank | ⟨gap, c, b, hback, hgap, hc⟩
  · obtain ⟨d, hd, hsolid⟩ := h.exists_solid hne
    rw [hblank d hd] at hsolid
    cases hsolid
  · exact ⟨gap, c, b, hback, hgap, hc⟩

/-- Of two first pieces, none is longer than the other: the gap behind the other one would part it. -/
theorem eq_nil_of_isWhole {x : Text} (htrimmed : IsTrimmed (w ++ x)) (hwhole : IsWhole P (w ++ x))
    (hparted : IsParted P w (x ++ rest)) : x = [] := by
  by_contra hne
  obtain ⟨gap, c, b, rfl, hgap, hc⟩ := htrimmed.exists_gap hne
  have hrest : gap ++ c :: b ++ rest = gap ++ c :: (b ++ rest) := by
    rw [List.append_assoc, List.cons_append]
  exact hwhole w gap c b rfl hgap hc (hparted gap c (b ++ rest) hrest hgap hc)

theorem eq_of_isWhole (h : w ++ rest = w' ++ rest') (htrimmed : IsTrimmed w) (hwhole : IsWhole P w)
    (hparted : IsParted P w rest) (htrimmed' : IsTrimmed w') (hwhole' : IsWhole P w')
    (hparted' : IsParted P w' rest') : w = w' := by
  rcases List.append_eq_append_iff.mp h with ⟨x, rfl, rfl⟩ | ⟨x, rfl, rfl⟩
  · rw [eq_nil_of_isWhole htrimmed' hwhole' hparted, List.append_nil]
  · rw [eq_nil_of_isWhole htrimmed hwhole hparted', List.append_nil]

/-- A blank text has nothing visible. -/
theorem not_blank_of_isTrimmed {gap : Text} (hw : IsTrimmed w)
    (h : ∀ c ∈ gap ++ (w ++ rest), isBlank c = true) : False := by
  obtain ⟨c, hc, hsolid⟩ := hw.exists_solid_self
  rw [h c (by simp [hc])] at hsolid
  cases hsolid

/-- A text is divided in one way only. -/
theorem IsDivided.unique {p : Int} {t : Text} {ps qs : List Piece} (h : IsDivided P p t ps)
    (h' : IsDivided P p t qs) : ps = qs := by
  induction h generalizing qs with
  | blank hblank =>
    cases h' with
    | blank _ => rfl
    | piece _ htrimmed _ _ _ => exact (not_blank_of_isTrimmed htrimmed hblank).elim
  | @piece p gap w rest ps hgap htrimmed hwhole hparted _ ih =>
    generalize ht : gap ++ (w ++ rest) = t at h'
    cases h' with
    | blank hblank => exact (not_blank_of_isTrimmed htrimmed (ht ▸ hblank)).elim
    | @piece _ gap' w' rest' qs hgap' htrimmed' hwhole' hparted' hrest' =>
      -- both first pieces start with the first visible character, so the gaps before them are the same
      obtain ⟨c, more, hw, hc⟩ := htrimmed.exists_cons
      obtain ⟨c', more', hw', hc'⟩ := htrimmed'.exists_cons
      have hstart := ht
      rw [hw, hw', List.cons_append, List.cons_append] at hstart
      obtain ⟨rfl, -, -⟩ := append_cons_inj hstart hgap hc hgap' hc'
      have hsame := List.append_cancel_left ht
      obtain rfl := eq_of_isWhole hsame htrimmed hwhole hparted htrimmed' hwhole' hparted'
      obtain rfl := List.append_cancel_left hsame
      rw [ih hrest']

/-- Pieces of a layout that are whole and parted from what follows them divide the text. -/
theorem isDivided_of_layout {p : Int} {t : Text} {ps : List Piece} (h : Layout p t ps)
    (hpieces : ∀ q ∈ ps, ∀ before after, t = before ++ (q.text ++ after) → q.start = p + before.length →
      IsTrimmed q.text ∧ IsWhole P q.text ∧ IsParted P q.text after) : IsDivided P p t ps := by
  induction h with
  | blank hblank => exact .blank hblank
  | @piece p gap w rest ps hgap _ _ ih =>
    obtain ⟨htrimmed, hwhole, hparted⟩ := hpieces _ List.mem_cons_self gap rest rfl rfl
    refine .piece hgap htrimmed hwhole hparted (ih fun q hq before after hrest hstart => ?_)
    refine hpieces q (List.mem_cons_of_mem _ hq) (gap ++ (w ++ before)) after ?_ ?_
    · rw [hrest]
      simp only [List.append_assoc]
    · rw [hstart, List.length_append, List.length_append]
      omega

end Division

/-! ### Sentences -/

/-- Nothing inside a delimited sentence parts it. -/
theorem IsDelimited.isWhole {s after : Text} (hs : IsTrimmed s) (h : IsDelimited s after) :
    IsWhole Parts s := by
  rintro a gap c b rfl hgap hc (⟨before, line, behind, rfl, hline⟩ | ⟨hne, hterminal, hlower⟩)
  · refine h.not_holdsBlankLine hs ⟨a ++ before, line, behind ++ c :: b, ?_, hline⟩
    simp only [List.append_assoc, List.cons_append]
  · obtain ⟨before, mark, closers, rfl, hmark, hclosers⟩ := hterminal
    cases gap with
    | nil => exact absurd rfl hne
    | cons d gap =>
      obtain ⟨hd, hgap⟩ := List.forall_mem_cons.mp hgap
      have heq : before ++ mark :: closers ++ (d :: gap ++ c :: b) =
          before ++ mark :: (closers ++ d :: (gap ++ c :: b)) := by
        simp only [List.append_assoc, List.cons_append]
      obtain ⟨blanks, next, more, hnext, hblanks, hsolid, hlow⟩ :=
        h.exists_lower hs heq hmark hclosers hd
      -- the lower-case letter that comes next is the character behind the gap
      obtain ⟨-, rfl, -⟩ := append_cons_inj hnext hgap hc hblanks hsolid
      rw [hlower] at hlow
      cases hlow

/-- What follows a delimited sentence is parted from it. -/
theorem EndsBefore.isParted {s after : Text} (h : EndsBefore s after) : IsParted Parts s after := by
  rintro gap c b rfl hgap hc
  refine (h.between hgap hc).imp_right fun ⟨hterminal, hlower⟩ => ⟨?_, hterminal, hlower⟩
  rintro rfl
  rw [h.isBlank_of_cons] at hc
  cases hc

/-- The sentences of a text are the pieces that it is divided into. -/
theorem sentences_isDivided (t : Text) : IsDivided Parts 0 t (t.sentences.map sentencePiece) := by
  refine isDivided_of_layout (sentences_layout t) fun q hq before after ht hstart => ?_
  obtain ⟨e, he, rfl⟩ := List.mem_map.mp hq
  obtain ⟨before', after', ht', hstart', hdelimited⟩ := sentences_isDelimited t e he
  -- the sentence stands at one place, so both say the same about what follows it
  have hlength : before.length = before'.length := by
    simp only [sentencePiece] at hstart
    omega
  obtain ⟨-, hafter⟩ := List.append_inj (ht.symm.trans ht') hlength
  obtain rfl : after = after' := List.append_cancel_left hafter
  have htrimmed := sentences_trimmed t e he
  exact ⟨htrimmed, hdelimited.isWhole htrimmed, hdelimited.endsBefore.isParted⟩

theorem sentencePiece_injective : Function.Injective sentencePiece := by
  rintro ⟨start, s⟩ ⟨start', s'⟩ h
  obtain ⟨hstart, htext⟩ := Piece.mk.inj h
  exact Prod.ext (Int.ofNat.inj hstart) htext

/-- What divides a text are its sentences. -/
theorem sentences_eq_iff {t : Text} {es : List (Nat × Text)} :
    t.sentences = es ↔ IsDivided Parts 0 t (es.map sentencePiece) := by
  refine ⟨fun h => h ▸ sentences_isDivided t, fun h => ?_⟩
  exact List.map_injective_iff.mpr sentencePiece_injective ((sentences_isDivided t).unique h)

end Text

end Copyedit
