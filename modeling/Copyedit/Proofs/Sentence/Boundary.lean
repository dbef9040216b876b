import Copyedit.Proofs.Characters
import Copyedit.Proofs.Sentence.Split
import Mathlib.Data.List.Chain
import Mathlib.Data.List.Infix

/-!
# Where sentences end

A boundary is a blank line, or terminal marks with closers that a blank follows and no lower-case letter
(`afterBoundary?_cases`).  Stretches of a text are cut behind the boundaries, and none is passed over
(`stretches_cuts`).  A blank line is trimmed off and a terminal mark is not, so whatever ends a stretch, a
sentence is clear of boundaries, and what follows it tells why it ends there (`IsDelimited`).

The main statement `sentences_boundaries` reads this off: no blank line is inside a sentence, terminal marks
inside it are followed by a lower-case letter, and between two sentences is one of the two boundaries.
-/

namespace Copyedit

namespace Text

/-- A newline, spaces or tabs, and another newline stand in a text. -/
def HoldsBlankLine (t : Text) : Prop :=
  ∃ before line after, t = before ++ '\n' :: (line ++ '\n' :: after) ∧
    ∀ c ∈ line, isLineBlank c = true

/-- A text ends with a terminal mark and any closers. -/
def EndsTerminally (t : Text) : Prop :=
  ∃ before mark closers, t = before ++ mark :: closers ∧ isTerminal mark = true ∧
    ∀ c ∈ closers, isCloser c = true

/-! ### Boundaries -/

theorem isBlank_of_isLineBlank {c : Char} (h : isLineBlank c = true) : isBlank c = true := by
  unfold isLineBlank at h
  rw [Bool.or_eq_true, beq_iff_eq, beq_iff_eq] at h
  rcases h with rfl | rfl <;> decide

theorem isBlank_of_mem_blankLine {line : Text} (hline : ∀ c ∈ line, isLineBlank c = true) :
    ∀ c ∈ '\n' :: (line ++ ['\n']), isBlank c = true := by
  refine List.forall_mem_cons.mpr ⟨by decide, List.forall_mem_append.mpr ⟨fun c hc => ?_, ?_⟩⟩
  · exact isBlank_of_isLineBlank (hline c hc)
  · exact List.forall_mem_singleton.mpr (by decide)

theorem isTerminal_hasNoBlank : HasNoBlank isTerminal := .of_ranges (by decide)

theorem isCloser_hasNoBlank : HasNoBlank isCloser := .of_ranges (by decide)

theorem not_isTerminal_of_isCloser {c : Char} (h : isCloser c = true) : isTerminal c = false := by
  simp only [isCloser, Bool.or_eq_true, beq_iff_eq] at h
  rcases h with ((((rfl | rfl) | rfl) | rfl) | rfl) | rfl <;> decide

theorem dropWhile_eq_self_of_head {p : Char → Bool} {t : Text} (h : ∀ c ∈ t.head?, p c = false) :
    t.dropWhile p = t := by
  cases t with
  | nil => rfl
  | cons c rest => exact List.dropWhile_cons_of_neg (Bool.eq_false_iff.mp (h c rfl))

theorem head?_of_startsBlank {t : Text} (h : t.startsBlank = true) : ∀ c ∈ t.head?, isBlank c = true := by
  cases t with
  | nil => cases h
  | cons c rest =>
    rintro _ ⟨⟩
    exact h

theorem afterBlankLine?_eq_some_iff {t after : Text} :
    t.afterBlankLine? = some after ↔
      ∃ line, t = '\n' :: (line ++ '\n' :: after) ∧ ∀ c ∈ line, isLineBlank c = true := by
  constructor
  · intro h
    unfold afterBlankLine? at h
    split at h
    · rename_i rest
      split at h
      · rename_i after' hrest
        obtain rfl := Option.some.inj h
        refine ⟨rest.takeWhile isLineBlank, ?_, fun c => List.mem_takeWhile_imp⟩
        rw [← hrest, List.takeWhile_append_dropWhile]
      · cases h
    · cases h
  · rintro ⟨line, rfl, hline⟩
    have hdrop : (line ++ '\n' :: after).dropWhile isLineBlank = '\n' :: after := by
      rw [List.dropWhile_append_of_pos hline]
      rfl
    simp only [afterBlankLine?, hdrop]

theorem afterTerminal?_eq_some_iff {t after : Text} :
    t.afterTerminal? = some after ↔ ∃ mark marks closers, t = mark :: (marks ++ (closers ++ after)) ∧
      isTerminal mark = true ∧ (∀ c ∈ marks, isTerminal c = true) ∧ (∀ c ∈ closers, isCloser c = true) ∧
      after.startsBlank = true ∧ after.trimStart.startsLower = false := by
  constructor
  · intro h
    unfold afterTerminal? at h
    split at h
    · cases h
    · rename_i mark rest
      split at h
      · rename_i hmark
        dsimp only at h
        split at h
        · rename_i hafter
          obtain rfl := Option.some.inj h
          rw [Bool.and_eq_true, Bool.not_eq_true'] at hafter
          refine ⟨mark, rest.takeWhile isTerminal, (rest.dropWhile isTerminal).takeWhile isCloser, ?_, hmark,
            fun c => List.mem_takeWhile_imp, fun c => List.mem_takeWhile_imp, hafter⟩
          rw [List.takeWhile_append_dropWhile, List.takeWhile_append_dropWhile]
        · cases h
      · cases h
  · rintro ⟨mark, marks, closers, rfl, hmark, hmarks, hclosers, hblank, hlower⟩
    -- neither a closer nor the blank behind the closers goes on with what stands before it
    have hafter : after.dropWhile isCloser = after := dropWhile_eq_self_of_head fun c hc =>
      isCloser_hasNoBlank.eq_false (head?_of_startsBlank hblank c hc)
    have hrest : (closers ++ after).dropWhile isTerminal = closers ++ after := by
      refine dropWhile_eq_self_of_head fun c hc => ?_
      cases closers with
      | nil => exact isTerminal_hasNoBlank.eq_false (head?_of_startsBlank hblank c hc)
      | cons d closers =>
        obtain rfl := Option.some.inj hc
        exact not_isTerminal_of_isCloser (hclosers _ List.mem_cons_self)
    have hdrop : ((marks ++ (closers ++ after)).dropWhile isTerminal).dropWhile isCloser = after := by
      rw [List.dropWhile_append_of_pos hmarks, hrest, List.dropWhile_append_of_pos hclosers, hafter]
    simp [afterTerminal?, hmark, hdrop, hblank, hlower]

/-- What stands at a boundary: a blank line, or marks and closers behind which a blank follows and no
lower-case letter goes on. -/
inductive IsBoundary : Text → Text → Prop where
  /-- A blank line. -/
  | blankLine {line after : Text} : (∀ c ∈ line, isLineBlank c = true) →
      IsBoundary ('\n' :: (line ++ ['\n'])) after
  /-- Terminal marks and closers. -/
  | terminal {boundary after : Text} : EndsTerminally boundary → (∀ c ∈ boundary, isBlank c = false) →
      after.startsBlank = true → after.trimStart.startsLower = false → IsBoundary boundary after

theorem isBoundary_of_afterBoundary? {boundary after : Text}
    (h : afterBoundary? (boundary ++ after) = some after) : IsBoundary boundary after := by
  unfold afterBoundary? at h
  rw [Option.orElse_eq_or] at h
  rcases Option.or_eq_some_iff.mp h with h | ⟨-, h⟩
  · obtain ⟨line, hline, hblank⟩ := afterBlankLine?_eq_some_iff.mp h
    have hboundary : boundary ++ after = '\n' :: (line ++ ['\n']) ++ after := by
      rw [hline, List.cons_append, List.append_assoc, List.singleton_append]
    exact List.append_cancel_right hboundary ▸ .blankLine hblank
  · obtain ⟨mark, marks, closers, ht, hmark, hmarks, hclosers, hblank, hlower⟩ :=
      afterTerminal?_eq_some_iff.mp h
    have happend : boundary ++ after = mark :: marks ++ closers ++ after := by
      rw [ht, List.append_assoc, List.cons_append]
    have hboundary := List.append_cancel_right happend
    have hall : ∀ c ∈ mark :: marks, isTerminal c = true := List.forall_mem_cons.mpr ⟨hmark, hmarks⟩
    subst hboundary
    refine .terminal ⟨(mark :: marks).dropLast, (mark :: marks).getLast (List.cons_ne_nil _ _), closers, ?_,
      hall _ (List.getLast_mem _), hclosers⟩ ?_ hblank hlower
    · rw [List.append_cons, List.dropLast_append_getLast]
    · exact List.forall_mem_append.mpr
        ⟨fun c hc => isTerminal_hasNoBlank c (hall c hc), fun c hc => isCloser_hasNoBlank c (hclosers c hc)⟩

theorem afterBoundary?_of_blankLine {line after : Text} (hline : ∀ c ∈ line, isLineBlank c = true) :
    afterBoundary? ('\n' :: (line ++ '\n' :: after)) = some after := by
  unfold afterBoundary?
  rw [afterBlankLine?_eq_some_iff.mpr ⟨line, rfl, hline⟩, Option.orElse_some]

/-- A mark with closers before a blank starts a boundary unless a lower-case letter follows. -/
theorem startsLower_of_afterBoundary?_eq_none {mark : Char} {closers after : Text}
    (hmark : isTerminal mark = true) (hclosers : ∀ c ∈ closers, isCloser c = true)
    (hafter : after.startsBlank = true) (h : afterBoundary? (mark :: (closers ++ after)) = none) :
    after.trimStart.startsLower = true := by
  by_contra hlower
  rw [Bool.not_eq_true] at hlower
  have hterminal : afterTerminal? (mark :: (closers ++ after)) = some after :=
    afterTerminal?_eq_some_iff.mpr
      ⟨mark, [], closers, rfl, hmark, List.forall_mem_nil _, hclosers, hafter, hlower⟩
  unfold afterBoundary? at h
  rw [Option.orElse_eq_or, Option.or_eq_none_iff, hterminal] at h
  cases h.2

/-! ### Stretches -/

/-- No boundary starts in a text that `after` follows. -/
def IsUncut (t after : Text) : Prop :=
  ∀ suf, suf <:+ t → suf ≠ [] → afterBoundary? (suf ++ after) = none

/-- Stretches that a text is cut into: each ends behind the first boundary in what is left of the text, and
the last one where there is none. -/
inductive Cuts : Text → List Text → Prop where
  /-- No boundary is left. -/
  | last {t : Text} : IsUncut t [] → Cuts t [t]
  /-- The first boundary ends a stretch. -/
  | cut {body boundary rest : Text} {ss : List Text} : IsUncut body (boundary ++ rest) →
      IsBoundary boundary rest → Cuts rest ss → Cuts (body ++ (boundary ++ rest)) ((body ++ boundary) :: ss)

/-- The stretches of a text are cut behind each boundary. -/
theorem stretches_cuts (seen t : Text) (h : IsUncut seen.reverse t) :
    Cuts (seen.reverse ++ t) (stretches seen t) := by
  fun_induction stretches seen t with
  | case1 seen =>
    rw [List.append_nil]
    exact .last h
  | case2 seen c rest after hafter ih =>
    have hrest := List.suffix_iff_eq_append.mp (afterBoundary?_suffix hafter)
    rw [← hrest] at h hafter
    have hcuts := ih fun _ hsuf hne => absurd (List.suffix_nil.mp hsuf) hne
    have happend := Cuts.cut h (isBoundary_of_afterBoundary? hafter) hcuts
    rwa [hrest] at happend
  | case3 seen c rest hnone ih =>
    have hnext : IsUncut (c :: seen).reverse rest := by
      intro suf hsuf hne
      rw [List.reverse_cons] at hsuf
      rcases List.suffix_concat_iff.mp hsuf with rfl | ⟨front, rfl, hfront⟩
      · exact absurd rfl hne
      · rw [List.append_assoc, List.singleton_append]
        cases front with
        | nil => exact hnone
        | cons d front => exact h _ hfront (List.cons_ne_nil d front)
    have hcuts := ih hnext
    rwa [List.reverse_cons, List.append_assoc, List.singleton_append] at hcuts

/-! ### Sentences -/

/-- What follows a sentence tells why it ends: nothing more comes, or a blank line does, or the sentence ends
with a mark and no lower-case letter comes next. -/
inductive EndsBefore (s : Text) : Text → Prop where
  /-- Only blanks follow. -/
  | last {after : Text} : (∀ c ∈ after, isBlank c = true) → EndsBefore s after
  /-- A blank line follows. -/
  | blankLine {gap line after : Text} : (∀ c ∈ gap, isBlank c = true) →
      (∀ c ∈ line, isLineBlank c = true) → EndsBefore s (gap ++ '\n' :: (line ++ '\n' :: after))
  /-- The sentence ends with a mark. -/
  | terminal {after : Text} : EndsTerminally s → after.startsBlank = true →
      after.trimStart.startsLower = false → EndsBefore s after

/-- A sentence is cut out of its text at boundaries, and none is left inside. -/
structure IsDelimited (s after : Text) : Prop where
  /-- No boundary starts before a blank of the sentence. -/
  clear : ∀ suf, suf <:+ s → (∃ c ∈ suf, isBlank c = true) → afterBoundary? (suf ++ after) = none
  /-- It ends where it should. -/
  endsBefore : EndsBefore s after

/-- What ends a trimmed text has a visible character. -/
theorem IsTrimmed.exists_solid {front back : Text} (h : IsTrimmed (front ++ back)) (hne : back ≠ []) :
    ∃ c ∈ back, isBlank c = false := by
  obtain ⟨_, -, hlast⟩ := h
  rw [List.getLast_append_of_ne_nil _ hne] at hlast
  exact ⟨_, List.getLast_mem hne, hlast⟩

theorem IsTrimmed.exists_solid_self {s : Text} (h : IsTrimmed s) : ∃ c ∈ s, isBlank c = false := by
  have happend : IsTrimmed ([] ++ s) := h
  exact happend.exists_solid h.1

/-- A blank end of a stretch lies behind its sentence. -/
theorem exists_trail_of_blank {lead s trail body boundary : Text} (hs : IsTrimmed s)
    (h : lead ++ (s ++ trail) = body ++ boundary) (hblank : ∀ c ∈ boundary, isBlank c = true) :
    ∃ gap, trail = gap ++ boundary ∧ body = lead ++ (s ++ gap) := by
  rw [← List.append_assoc] at h
  rcases List.append_eq_append_iff.mp h with ⟨gap, rfl, rfl⟩ | ⟨inner, hbody, rfl⟩
  · exact ⟨gap, rfl, List.append_assoc ..⟩
  · rcases List.append_eq_append_iff.mp hbody with ⟨front, rfl, rfl⟩ | ⟨front, rfl, rfl⟩
    · cases inner with
      | nil => exact ⟨[], rfl, by simp only [List.append_nil]⟩
      | cons c inner =>
        -- otherwise it would hold the last character of the sentence
        obtain ⟨d, hd, hsolid⟩ := hs.exists_solid (List.cons_ne_nil c inner)
        rw [hblank d (List.mem_append_left trail hd)] at hsolid
        cases hsolid
    · obtain ⟨d, hd, hsolid⟩ := hs.exists_solid_self
      rw [hblank d (by simp [hd])] at hsolid
      cases hsolid

/-- An end of a stretch without blanks ends its sentence too. -/
theorem exists_front_of_solid {lead s trail body boundary : Text}
    (h : lead ++ (s ++ trail) = body ++ boundary) (hne : boundary ≠ [])
    (hlead : ∀ c ∈ lead, isBlank c = true) (htrail : ∀ c ∈ trail, isBlank c = true)
    (hsolid : ∀ c ∈ boundary, isBlank c = false) :
    trail = [] ∧ ∃ front, s = front ++ boundary ∧ body = lead ++ front := by
  have hnil : trail = [] := by
    rcases List.eq_nil_or_concat' trail with rfl | ⟨front, c, rfl⟩
    · rfl
    · have hlasts := congrArg List.getLast? h
      rw [List.getLast?_append_of_ne_nil _ hne, ← List.append_assoc, ← List.append_assoc,
        List.getLast?_concat, List.getLast?_eq_some_getLast hne, Option.some_inj] at hlasts
      have hc := hsolid c (hlasts ▸ List.getLast_mem hne)
      rw [htrail c (by simp)] at hc
      cases hc
  subst hnil
  rw [List.append_nil] at h
  refine ⟨rfl, ?_⟩
  rcases List.append_eq_append_iff.mp h with ⟨front, rfl, rfl⟩ | ⟨inner, rfl, rfl⟩
  · exact ⟨front, rfl, rfl⟩
  · cases inner with
    | nil => exact ⟨[], rfl, by rw [List.append_nil, List.append_nil]⟩
    | cons c inner =>
      have hc := hsolid c (by simp)
      rw [hlead c (by simp)] at hc
      cases hc

theorem EndsTerminally.append {t : Text} (h : EndsTerminally t) (front : Text) :
    EndsTerminally (front ++ t) := by
  obtain ⟨before, mark, closers, rfl, hmark, hclosers⟩ := h
  exact ⟨front ++ before, mark, closers, (List.append_assoc ..).symm, hmark, hclosers⟩

/-- A stretch behind which no boundary is left has a delimited sentence. -/
theorem isDelimited_of_last {lead s trail : Text} (h : IsUncut (lead ++ (s ++ trail)) [])
    (htrail : ∀ c ∈ trail, isBlank c = true) : IsDelimited s trail where
  clear := by
    rintro suf ⟨front, rfl⟩ ⟨c, hc, -⟩
    have hsuf : suf ++ trail <:+ lead ++ (front ++ suf ++ trail) :=
      ⟨lead ++ front, by simp only [List.append_assoc]⟩
    have hnone := h _ hsuf (List.ne_nil_of_mem (List.mem_append_left trail hc))
    rwa [List.append_nil] at hnone
  endsBefore := .last htrail

/-- A stretch that ends behind a boundary has a delimited sentence. -/
theorem isDelimited_of_cut {lead s trail body boundary rest : Text} (hs : IsTrimmed s)
    (h : lead ++ (s ++ trail) = body ++ boundary) (huncut : IsUncut body (boundary ++ rest))
    (hboundary : IsBoundary boundary rest) (hlead : ∀ c ∈ lead, isBlank c = true)
    (htrail : ∀ c ∈ trail, isBlank c = true) : IsDelimited s (trail ++ rest) := by
  cases hboundary with
  | @blankLine line _ hline =>
    obtain ⟨gap, rfl, rfl⟩ := exists_trail_of_blank hs h (isBlank_of_mem_blankLine hline)
    constructor
    · rintro suf ⟨front, rfl⟩ ⟨c, hc, -⟩
      have hsuf : suf ++ gap <:+ lead ++ (front ++ suf ++ gap) :=
        ⟨lead ++ front, by simp only [List.append_assoc]⟩
      have hnone := huncut _ hsuf (List.ne_nil_of_mem (List.mem_append_left gap hc))
      rwa [List.append_assoc, ← List.append_assoc gap] at hnone
    · have hgap : ∀ c ∈ gap, isBlank c = true := fun c hc => htrail c (List.mem_append_left _ hc)
      have hafter : gap ++ '\n' :: (line ++ ['\n']) ++ rest = gap ++ '\n' :: (line ++ '\n' :: rest) := by
        simp only [List.append_assoc, List.cons_append, List.nil_append]
      exact hafter ▸ .blankLine hgap hline
  | terminal hterminal hsolid hafter hlower =>
    have hne : boundary ≠ [] := by
      obtain ⟨before, mark, closers, rfl, -⟩ := hterminal
      exact List.append_ne_nil_of_right_ne_nil _ (List.cons_ne_nil _ _)
    obtain ⟨rfl, front, rfl, rfl⟩ := exists_front_of_solid h hne hlead htrail hsolid
    refine ⟨?_, .terminal (hterminal.append front) hafter hlower⟩
    rintro suf ⟨before, hsuf⟩ ⟨c, hc, hblank⟩
    rcases List.append_eq_append_iff.mp hsuf with ⟨inner, rfl, rfl⟩ | ⟨inner, rfl, rfl⟩
    · -- the blank stands before the boundary
      have hinner : inner ≠ [] := by
        rintro rfl
        rw [hsolid c hc] at hblank
        cases hblank
      rw [List.nil_append, List.append_assoc]
      exact huncut inner ⟨lead ++ before, by simp only [List.append_assoc]⟩ hinner
    · rw [hsolid c (List.mem_append_right inner hc)] at hblank
      cases hblank

theorem mem_trimmedFrom_cons {position : Nat} {s : Text} {rest : List Text} {e : Nat × Text}
    (h : e ∈ trimmedFrom position (s :: rest)) :
    (s.trim ≠ [] ∧ e = (position + (s.length - s.trimStart.length), s.trim)) ∨
      e ∈ trimmedFrom (position + s.length) rest := by
  unfold trimmedFrom at h
  dsimp only at h
  split at h
  · exact .inr h
  · rename_i hne
    exact (List.mem_cons.mp h).imp_left fun h => ⟨fun hnil => hne (List.isEmpty_iff.mpr hnil), h⟩

/-- The sentences of stretches that a text is cut into are delimited. -/
theorem Cuts.isDelimited {t : Text} {ss : List Text} (h : Cuts t ss) (position : Nat) :
    ∀ e ∈ trimmedFrom position ss, ∃ before after,
      t = before ++ (e.2 ++ after) ∧ e.1 = position + before.length ∧ IsDelimited e.2 after := by
  induction h generalizing position with
  | @last s huncut =>
    intro e he
    rcases mem_trimmedFrom_cons he with ⟨-, rfl⟩ | he
    · obtain ⟨lead, trail, hs, hlength, -, htrail⟩ := exists_append_trim s
      have hwhole : IsUncut (lead ++ (s.trim ++ trail)) [] := hs ▸ huncut
      exact ⟨lead, trail, hs, by rw [hlength], isDelimited_of_last hwhole htrail⟩
    · cases he
  | @cut body boundary rest ss huncut hboundary _ ih =>
    intro e he
    rcases mem_trimmedFrom_cons he with ⟨hne, rfl⟩ | he
    · obtain ⟨lead, trail, hs, hlength, hlead, htrail⟩ := exists_append_trim (body ++ boundary)
      refine ⟨lead, trail ++ rest, ?_, by rw [hlength],
        isDelimited_of_cut (isTrimmed_trim hne) hs.symm huncut hboundary hlead htrail⟩
      rw [← List.append_assoc]
      conv_lhs => rw [hs]
      simp only [List.append_assoc]
    · obtain ⟨before, after, hrest, hstart, hdelimited⟩ := ih _ e he
      refine ⟨body ++ boundary ++ before, after, ?_, ?_, hdelimited⟩
      · conv_lhs => rw [hrest]
        simp only [List.append_assoc]
      · rw [hstart, Nat.add_assoc, ← List.length_append]

/-- The sentences of a text are delimited. -/
theorem sentences_isDelimited (t : Text) : ∀ e ∈ t.sentences, ∃ before after,
    t = before ++ (e.2 ++ after) ∧ e.1 = before.length ∧ IsDelimited e.2 after := by
  intro e he
  have hcuts := stretches_cuts [] t fun _ hsuf hne => absurd (List.suffix_nil.mp hsuf) hne
  obtain ⟨before, after, ht, hstart, hdelimited⟩ := hcuts.isDelimited 0 e he
  exact ⟨before, after, ht, by rw [hstart, Nat.zero_add], hdelimited⟩

/-! ### Main statement -/

theorem IsTrimmed.exists_cons {s : Text} (h : IsTrimmed s) : ∃ c rest, s = c :: rest ∧ isBlank c = false := by
  obtain ⟨hne, hhead, -⟩ := h
  cases s with
  | nil => exact absurd rfl hne
  | cons c rest => exact ⟨c, rest, rfl, hhead⟩

/-- Behind blanks, what is left starts with the first visible character. -/
theorem startsLower_trimStart {gap rest : Text} {c : Char} (hgap : ∀ c ∈ gap, isBlank c = true)
    (hc : isBlank c = false) : startsLower (trimStart (gap ++ c :: rest)) = isLower c := by
  unfold trimStart
  rw [List.dropWhile_append_of_pos hgap, List.dropWhile_cons_of_neg (Bool.eq_false_iff.mp hc)]
  rfl

/-- No blank line is inside a delimited sentence. -/
theorem IsDelimited.not_holdsBlankLine {s after : Text} (hs : IsTrimmed s) (h : IsDelimited s after) :
    ¬ HoldsBlankLine s := by
  rintro ⟨before, line, rest, rfl, hline⟩
  have hnone := h.clear ('\n' :: (line ++ '\n' :: rest)) (List.suffix_append _ _)
    ⟨'\n', List.mem_cons_self, by decide⟩
  rw [List.cons_append, List.append_assoc, List.cons_append, afterBoundary?_of_blankLine hline] at hnone
  cases hnone

/-- Behind terminal marks inside a delimited sentence comes a lower-case letter. -/
theorem IsDelimited.exists_lower {s after before closers rest : Text} {mark c : Char} (hs : IsTrimmed s)
    (h : IsDelimited s after) (heq : s = before ++ mark :: (closers ++ c :: rest))
    (hmark : isTerminal mark = true) (hclosers : ∀ c ∈ closers, isCloser c = true) (hc : isBlank c = true) :
    ∃ blanks next more, rest = blanks ++ next :: more ∧ (∀ b ∈ blanks, isBlank b = true) ∧
      isBlank next = false ∧ isLower next = true := by
  subst heq
  have hnone := h.clear (mark :: (closers ++ c :: rest)) (List.suffix_append _ _)
    ⟨c, by simp, hc⟩
  rw [List.cons_append, List.append_assoc] at hnone
  have hlower : startsLower (trimStart ((c :: rest) ++ after)) = true :=
    startsLower_of_afterBoundary?_eq_none hmark hclosers hc hnone
  -- the sentence ends with a visible character, so one comes behind the blank
  have hblanks : ∀ b ∈ rest.takeWhile isBlank, isBlank b = true := fun b => List.mem_takeWhile_imp
  cases hdrop : rest.dropWhile isBlank with
  | nil =>
    rw [List.append_cons, ← List.append_assoc] at hs
    obtain ⟨d, hd, hsolid⟩ := hs.exists_solid (List.cons_ne_nil c rest)
    have hall : ∀ b ∈ c :: rest, isBlank b = true :=
      List.forall_mem_cons.mpr ⟨hc, List.dropWhile_eq_nil_iff.mp hdrop⟩
    rw [hall d hd] at hsolid
    cases hsolid
  | cons next more =>
    have hnext : isBlank next = false := by
      have hnot := List.head_dropWhile_not isBlank (l := rest) (by rw [hdrop]; exact List.cons_ne_nil _ _)
      simpa only [hdrop, List.head_cons] using hnot
    have hrest : rest = rest.takeWhile isBlank ++ next :: more := by
      rw [← hdrop, List.takeWhile_append_dropWhile]
    refine ⟨rest.takeWhile isBlank, next, more, hrest, hblanks, hnext, ?_⟩
    rw [hrest] at hlower
    have hstart : startsLower (trimStart (c :: rest.takeWhile isBlank ++ next :: (more ++ after))) =
        isLower next :=
      startsLower_trimStart (List.forall_mem_cons.mpr ⟨hc, hblanks⟩) hnext
    rw [← hstart, ← hlower]
    simp only [List.append_assoc, List.cons_append]

/-- A text is cut at sentence boundaries and nowhere else. -/
structure IsCutAtBoundaries (t : Text) (sentences : List (Nat × Text)) : Prop where
  /-- No blank line is inside a sentence. -/
  not_holdsBlankLine : ∀ e ∈ sentences, ¬ HoldsBlankLine e.2
  /-- Where a terminal mark, closers and a blank stand in a sentence, a lower-case letter comes next. -/
  exists_lower : ∀ e ∈ sentences, ∀ before mark closers c rest,
    e.2 = before ++ mark :: (closers ++ c :: rest) → isTerminal mark = true →
    (∀ c ∈ closers, isCloser c = true) → isBlank c = true →
    ∃ blanks next more, rest = blanks ++ next :: more ∧ (∀ b ∈ blanks, isBlank b = true) ∧
      isBlank next = false ∧ isLower next = true
  /-- Between two sentences is a blank line, or the first one ends with a mark and the second one does not
  start in lower case. -/
  between : sentences.IsChain fun a b => HoldsBlankLine (t.slice (a.1 + a.2.length) b.1) ∨
    EndsTerminally a.2 ∧ ∃ c ∈ b.2.head?, isLower c = false

/-- What lies between two pieces of a text in a row. -/
theorem slice_between {before a gap rest : Text} {start stop : Nat}
    (hstart : start = before.length + a.length)
    (hstop : stop = start + gap.length) : slice (before ++ (a ++ (gap ++ rest))) start stop = gap := by
  rw [hstop, hstart, ← List.append_assoc, ← List.length_append, slice_append]

/-- The gap behind a delimited sentence holds a blank line, or the sentence ends with a mark. -/
theorem EndsBefore.between {s gap rest : Text} {c : Char} (h : EndsBefore s (gap ++ c :: rest))
    (hgap : ∀ c ∈ gap, isBlank c = true) (hc : isBlank c = false) :
    HoldsBlankLine gap ∨ EndsTerminally s ∧ isLower c = false := by
  generalize hafter : gap ++ c :: rest = after at h
  cases h with
  | last hblank =>
    rw [hblank c (by simp [← hafter])] at hc
    cases hc
  | @blankLine gap' line after hgap' hline =>
    left
    have hblank : ∀ d ∈ gap' ++ '\n' :: (line ++ ['\n']), isBlank d = true :=
      List.forall_mem_append.mpr ⟨hgap', isBlank_of_mem_blankLine hline⟩
    have happend : gap ++ c :: rest = (gap' ++ '\n' :: (line ++ ['\n'])) ++ after := by
      rw [hafter]
      simp only [List.append_assoc, List.cons_append, List.nil_append]
    rcases List.append_eq_append_iff.mp happend with ⟨inner, hinner, hrest⟩ | ⟨inner, rfl, -⟩
    · cases inner with
      | nil => exact ⟨gap', line, [], by simpa using hinner.symm, hline⟩
      | cons d inner =>
        -- the visible character would stand in the blank line
        obtain ⟨rfl, -⟩ := List.cons.inj hrest
        rw [hblank c (by simp [hinner])] at hc
        cases hc
    · exact ⟨gap', line, inner, by simp only [List.append_assoc, List.cons_append, List.nil_append], hline⟩
  | terminal hterminal _ hlower =>
    rw [← hafter, startsLower_trimStart hgap hc] at hlower
    exact .inr ⟨hterminal, hlower⟩

/-- Directly behind a delimited sentence comes a blank. -/
theorem EndsBefore.isBlank_of_cons {s rest : Text} {c : Char} (h : EndsBefore s (c :: rest)) :
    isBlank c = true := by
  generalize hafter : c :: rest = after at h
  cases h with
  | last hblank => exact hblank c (hafter ▸ List.mem_cons_self)
  | @blankLine gap line after hgap _ =>
    cases gap with
    | nil =>
      obtain ⟨rfl, -⟩ := List.cons.inj hafter
      decide
    | cons d gap =>
      obtain ⟨rfl, -⟩ := List.cons.inj hafter
      exact hgap _ List.mem_cons_self
  | terminal _ hblank _ =>
    subst hafter
    exact hblank

/-- No blank line is inside a sentence of a text. -/
theorem sentences_not_holdsBlankLine (t : Text) : ∀ e ∈ t.sentences, ¬ HoldsBlankLine e.2 := by
  intro e he
  obtain ⟨_, _, -, -, hdelimited⟩ := sentences_isDelimited t e he
  exact hdelimited.not_holdsBlankLine (sentences_trimmed t e he)

/-- **Boundaries.** A text is cut into sentences at blank lines and behind terminal marks that no lower-case
letter follows, and nowhere else. -/
theorem sentences_boundaries (t : Text) : IsCutAtBoundaries t t.sentences where
  not_holdsBlankLine := sentences_not_holdsBlankLine t
  exists_lower e he before mark closers c rest heq hmark hclosers hc := by
    obtain ⟨_, _, -, -, hdelimited⟩ := sentences_isDelimited t e he
    exact hdelimited.exists_lower (sentences_trimmed t e he) heq hmark hclosers hc
  between := by
    have hchain := (List.isChain_map sentencePiece).mp (sentences_layout t).isChain
    refine hchain.imp_of_mem_imp fun a b ha hb ⟨before, gap, rest, ht, hstart, hstop, hgap⟩ => ?_
    obtain ⟨before', after, ht', hstart', hdelimited⟩ := sentences_isDelimited t a ha
    obtain ⟨c, tail, hb, hc⟩ := (sentences_trimmed t b hb).exists_cons
    simp only [sentencePiece, Piece.stop] at hstart hstop ht
    -- both ways of taking the text apart agree on what follows the first of the two
    have hlength : before.length = before'.length := by omega
    obtain ⟨-, hafter⟩ := List.append_inj (ht.symm.trans ht') hlength
    have hafter := List.append_cancel_left hafter
    rw [ht, slice_between (by omega) (by omega)]
    rw [hb, List.cons_append] at hafter
    rw [hb]
    have hends : EndsBefore a.2 (gap ++ c :: (tail ++ rest)) := hafter ▸ hdelimited.endsBefore
    exact (hends.between hgap hc).imp_right fun ⟨hterminal, hlower⟩ => ⟨hterminal, c, rfl, hlower⟩

end Text

end Copyedit
