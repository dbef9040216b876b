import Copyedit.Proofs.Sentence.Division

/-!
# Sentences of a text with carriage returns

A text gets carriage returns when each newline becomes a carriage return and a newline (`crlf`).  What stood
before a newline now stands before the carriage return, so no blank line is left in the text
(`not_holdsBlankLine_crlf`), while marks with closers, blanks and lower-case letters are where they were.
Hence a text divided at marks alone is, with carriage returns, divided as sentences are (`IsDivided.crlf`),
and it is divided at marks alone when sentences that no marks part are joined (`IsDivided.joined`).

The main statement `sentences_crlf` follows since there is only one division: with carriage returns, the
sentences are those of the text if marks part each two of them, and otherwise fewer and longer.
-/

namespace Copyedit

namespace Text

/-! ### Carriage returns -/

/-- Each newline of a text replaced by a carriage return and a newline. -/
def crlf (t : Text) : Text := t.flatMap fun c => if c = '\n' then ['\r', '\n'] else [c]

section Crlf

variable {t x y : Text} {c : Char}

theorem crlf_append (a b : Text) : crlf (a ++ b) = a.crlf ++ b.crlf := List.flatMap_append

theorem crlf_newline (t : Text) : crlf ('\n' :: t) = '\r' :: '\n' :: t.crlf := rfl

theorem crlf_cons (hc : c ≠ '\n') (t : Text) : crlf (c :: t) = c :: t.crlf := by
  unfold crlf
  rw [List.flatMap_cons, if_neg hc, List.singleton_append]

theorem ne_newline_of_isBlank (hc : isBlank c = false) : c ≠ '\n' := by
  rintro rfl
  cases hc

theorem crlf_eq_self (h : ∀ c ∈ t, isBlank c = false) : t.crlf = t := by
  induction t with
  | nil => rfl
  | cons c t ih =>
    obtain ⟨hc, ht⟩ := List.forall_mem_cons.mp h
    rw [crlf_cons (ne_newline_of_isBlank hc), ih ht]

/-- The characters of a text stay, and carriage returns come to them if there are newlines. -/
theorem mem_crlf_iff : c ∈ t.crlf ↔ c ∈ t ∨ c = '\r' ∧ '\n' ∈ t := by
  induction t with
  | nil => simp [crlf]
  | cons d t ih =>
    by_cases hd : d = '\n'
    · subst hd
      rw [crlf_newline, List.mem_cons, List.mem_cons, ih, List.mem_cons]
      have hnewline : '\n' ∈ '\n' :: t := List.mem_cons_self
      tauto
    · rw [crlf_cons hd, List.mem_cons, ih, List.mem_cons, List.mem_cons, or_assoc,
        or_iff_right (Ne.symm hd)]

theorem crlf_eq_nil_iff : t.crlf = [] ↔ t = [] := by
  refine ⟨fun h => List.eq_nil_iff_forall_not_mem.mpr fun c hc => ?_, ?_⟩
  · have hmem := mem_crlf_iff.mpr (.inl hc)
    rw [h] at hmem
    cases hmem
  · rintro rfl
    rfl

/-- A text is blank with carriage returns exactly if it is blank without. -/
theorem isBlank_crlf_iff : (∀ c ∈ t.crlf, isBlank c = true) ↔ ∀ c ∈ t, isBlank c = true := by
  refine ⟨fun h c hc => h c (mem_crlf_iff.mpr (.inl hc)), fun h c hc => ?_⟩
  rcases mem_crlf_iff.mp hc with hc | ⟨rfl, -⟩
  · exact h c hc
  · decide

/-- A text with carriage returns starts as the text does, or with the first of its line ends. -/
theorem exists_of_crlf_eq_cons (h : t.crlf = c :: y) :
    (∃ b : Text, t = c :: b ∧ b.crlf = y ∧ c ≠ '\n') ∨
      ∃ b : Text, t = '\n' :: b ∧ c = '\r' ∧ y = '\n' :: b.crlf := by
  cases t with
  | nil => cases h
  | cons d t =>
    by_cases hd : d = '\n'
    · subst hd
      obtain ⟨rfl, rfl⟩ := List.cons.inj h
      exact .inr ⟨t, rfl, rfl, rfl⟩
    · rw [crlf_cons hd] at h
      obtain ⟨rfl, rfl⟩ := List.cons.inj h
      exact .inl ⟨t, rfl, rfl, hd⟩

/-- Where a text with carriage returns is cut, but not between one and its newline, the text can be cut. -/
theorem exists_of_crlf_eq_append (h : t.crlf = x ++ y)
    (hxy : ∀ front back, x = front ++ ['\r'] → y ≠ '\n' :: back) :
    ∃ a b, t = a ++ b ∧ a.crlf = x ∧ b.crlf = y := by
  induction t generalizing x with
  | nil =>
    obtain ⟨rfl, rfl⟩ := List.append_eq_nil_iff.mp h.symm
    exact ⟨[], [], rfl, rfl, rfl⟩
  | cons d t ih =>
    cases x with
    | nil => exact ⟨[], d :: t, rfl, rfl, h⟩
    | cons e x =>
      rcases exists_of_crlf_eq_cons h with ⟨b, hb, hrest, he⟩ | ⟨b, hb, rfl, hrest⟩
      · obtain ⟨rfl, rfl⟩ := List.cons.inj hb
        obtain ⟨a, b, rfl, rfl, rfl⟩ := ih hrest fun front back hx =>
          hxy (d :: front) back (congrArg (d :: ·) hx)
        exact ⟨d :: a, b, rfl, crlf_cons he a, rfl⟩
      · obtain ⟨rfl, rfl⟩ := List.cons.inj hb
        cases x with
        | nil => exact absurd hrest (hxy [] _ rfl)
        | cons e x =>
          obtain ⟨rfl, htail⟩ := List.cons.inj hrest
          obtain ⟨a, b, rfl, rfl, rfl⟩ := ih htail.symm fun front back hx =>
            hxy ('\r' :: '\n' :: front) back (congrArg ('\r' :: '\n' :: ·) hx)
          exact ⟨'\n' :: a, b, rfl, rfl, rfl⟩

/-- A visible character of a text with carriage returns comes of the text, and so does what stands before
and behind it. -/
theorem exists_of_crlf_eq_append_cons (h : t.crlf = x ++ c :: y) (hc : isBlank c = false) :
    ∃ a b : Text, t = a ++ c :: b ∧ a.crlf = x ∧ b.crlf = y := by
  obtain ⟨a, b, rfl, rfl, hb⟩ := exists_of_crlf_eq_append h fun _ _ _ heq =>
    ne_newline_of_isBlank hc (List.cons.inj heq).1
  rcases exists_of_crlf_eq_cons hb with ⟨b, rfl, rfl, -⟩ | ⟨b, -, rfl, -⟩
  · exact ⟨a, b, rfl, rfl, rfl⟩
  · cases hc

/-- A carriage return stands before each newline. -/
theorem exists_of_crlf_eq_append_newline (h : t.crlf = x ++ '\n' :: y) : ∃ front, x = front ++ ['\r'] := by
  by_contra hnone
  obtain ⟨_, b, -, -, hb⟩ := exists_of_crlf_eq_append h fun front _ hx => absurd ⟨front, hx⟩ hnone
  rcases exists_of_crlf_eq_cons hb with ⟨_, -, -, hne⟩ | ⟨_, -, hreturn, -⟩
  · exact hne rfl
  · cases hreturn

/-- So no blank line is left. -/
theorem not_holdsBlankLine_crlf {gap : Text} (h : t.crlf = x ++ (gap ++ y)) : ¬ HoldsBlankLine gap := by
  rintro ⟨before, line, after, rfl, hline⟩
  have hcut : t.crlf = (x ++ before ++ '\n' :: line) ++ '\n' :: (after ++ y) := by
    rw [h]
    simp only [List.append_assoc, List.cons_append]
  obtain ⟨front, hfront⟩ := exists_of_crlf_eq_append_newline hcut
  have hlast := congrArg List.getLast? hfront
  rw [List.getLast?_append_cons, List.getLast?_concat] at hlast
  rcases List.mem_cons.mp (List.mem_of_getLast? hlast) with hnewline | hmem
  · cases hnewline
  · cases hline _ hmem

/-! ### Marks -/

/-- Marks with closers are no blanks. -/
theorem isBlank_mark {mark : Char} {closers : Text} (hmark : isTerminal mark = true)
    (hclosers : ∀ c ∈ closers, isCloser c = true) : ∀ c ∈ mark :: closers, isBlank c = false :=
  List.forall_mem_cons.mpr
    ⟨isTerminal_hasNoBlank mark hmark, fun c hc => isCloser_hasNoBlank c (hclosers c hc)⟩

/-- A text that ends with a mark does not end with blanks. -/
theorem EndsTerminally.eq_nil_of_isBlank (h : EndsTerminally (x ++ y))
    (hy : ∀ c ∈ y, isBlank c = true) : y = [] := by
  by_contra hne
  obtain ⟨before, mark, closers, heq, hmark, hclosers⟩ := h
  have hlast := congrArg List.getLast? heq
  rw [List.getLast?_append_cons, List.getLast?_append_of_ne_nil _ hne,
    List.getLast?_eq_some_getLast hne] at hlast
  have hsolid := isBlank_mark hmark hclosers _ (List.mem_of_getLast? hlast.symm)
  rw [hy _ (List.getLast_mem hne)] at hsolid
  cases hsolid

/-- Behind a gap, a text ends with a mark of its own. -/
theorem EndsTerminally.of_append {gap : Text} (h : EndsTerminally (x ++ (gap ++ y)))
    (hgap : ∀ c ∈ gap, isBlank c = true) (hne : gap ≠ []) : EndsTerminally y := by
  obtain ⟨before, mark, closers, heq, hmark, hclosers⟩ := h
  rw [← List.append_assoc] at heq
  rcases List.append_eq_append_iff.mp heq with ⟨inner, -, rfl⟩ | ⟨inner, hgap', hinner⟩
  · exact ⟨inner, mark, closers, rfl, hmark, hclosers⟩
  · cases inner with
    | nil => exact ⟨[], mark, closers, hinner.symm, hmark, hclosers⟩
    | cons d inner =>
      -- otherwise the text up to the gap would end with a mark
      obtain ⟨rfl, rfl⟩ := List.cons.inj hinner
      have hfront : EndsTerminally (x ++ gap) :=
        ⟨before, mark, inner, hgap', hmark, fun c hc => hclosers c (List.mem_append_left y hc)⟩
      exact absurd (hfront.eq_nil_of_isBlank hgap) hne

theorem endsTerminally_crlf_iff : EndsTerminally t.crlf ↔ EndsTerminally t := by
  constructor
  · rintro ⟨before, mark, closers, heq, hmark, hclosers⟩
    obtain ⟨a, b, rfl, -, hb⟩ := exists_of_crlf_eq_append_cons heq (isTerminal_hasNoBlank mark hmark)
    have hsolid : ∀ c ∈ b, isBlank c = false := fun c hc =>
      isCloser_hasNoBlank c (hclosers c (hb ▸ mem_crlf_iff.mpr (.inl hc)))
    rw [crlf_eq_self hsolid] at hb
    exact ⟨a, mark, closers, by rw [hb], hmark, hclosers⟩
  · rintro ⟨before, mark, closers, rfl, hmark, hclosers⟩
    refine ⟨crlf before, mark, closers, ?_, hmark, hclosers⟩
    rw [crlf_append, crlf_eq_self (isBlank_mark hmark hclosers)]

/-! ### Divisions -/

/-- A text is trimmed if it starts and ends with a visible character. -/
theorem isTrimmed_iff : IsTrimmed t ↔ (∃ c rest, t = c :: rest ∧ isBlank c = false) ∧
    ∃ front c, t = front ++ [c] ∧ isBlank c = false := by
  constructor
  · intro h
    have hcons := h.exists_cons
    obtain ⟨hne, -, hlast⟩ := h
    exact ⟨hcons, t.dropLast, t.getLast hne, (List.dropLast_append_getLast hne).symm, hlast⟩
  · rintro ⟨⟨c, rest, rfl, hc⟩, front, d, heq, hd⟩
    refine ⟨List.cons_ne_nil c rest, hc, ?_⟩
    simpa only [heq, List.getLast_append_singleton] using hd

theorem IsTrimmed.crlf (h : IsTrimmed t) : IsTrimmed t.crlf := by
  obtain ⟨⟨c, rest, hstart, hc⟩, front, d, hend, hd⟩ := isTrimmed_iff.mp h
  refine isTrimmed_iff.mpr ⟨⟨c, Text.crlf rest, ?_, hc⟩, Text.crlf front, d, ?_, hd⟩
  · rw [hstart, crlf_cons (ne_newline_of_isBlank hc)]
  · rw [hend, crlf_append, crlf_cons (ne_newline_of_isBlank hd)]
    rfl

/-- What no marks part is, with carriage returns, not parted at all. -/
theorem IsWhole.crlf (h : IsWhole PartsByMark t) : IsWhole Parts t.crlf := by
  rintro a gap c b heq hgap hc (hline | ⟨hne, hterminal, hlower⟩)
  · exact not_holdsBlankLine_crlf heq hline
  · have hlast : ∀ front back, a = front ++ ['\r'] → gap ++ c :: b ≠ '\n' :: back := by
      rintro front back rfl -
      cases hterminal.eq_nil_of_isBlank (List.forall_mem_singleton.mpr (by decide))
    obtain ⟨a, back, rfl, rfl, hback⟩ := exists_of_crlf_eq_append heq hlast
    obtain ⟨gap, b, rfl, rfl, rfl⟩ := exists_of_crlf_eq_append_cons hback hc
    exact h a gap c b rfl (isBlank_crlf_iff.mp hgap) hc
      ⟨mt crlf_eq_nil_iff.mpr hne, endsTerminally_crlf_iff.mp hterminal, hlower⟩

theorem IsParted.crlf {s rest : Text} (h : IsParted PartsByMark s rest) :
    IsParted Parts s.crlf rest.crlf := by
  intro gap c b heq hgap hc
  obtain ⟨gap, b, rfl, rfl, rfl⟩ := exists_of_crlf_eq_append_cons heq hc
  obtain ⟨hne, hterminal, hlower⟩ := h gap c b rfl (isBlank_crlf_iff.mp hgap) hc
  exact .inr ⟨mt crlf_eq_nil_iff.mp hne, endsTerminally_crlf_iff.mpr hterminal, hlower⟩

/-- A sentence of a text as it stands in the text with carriage returns. -/
def crlfSentence (t : Text) (e : Nat × Text) : Nat × Text := ((crlf (t.take e.1)).length, e.2.crlf)

/-- A text divided at marks is, with carriage returns, divided as sentences are. -/
theorem IsDivided.crlf {before : Text} {es : List (Nat × Text)}
    (h : IsDivided PartsByMark before.length t (es.map sentencePiece)) :
    IsDivided Parts before.crlf.length t.crlf
      ((es.map (crlfSentence (before ++ t))).map sentencePiece) := by
  -- along the division, what is passed over goes to the text before, which tells the positions
  generalize hp : (before.length : Int) = p at h
  generalize hps : es.map sentencePiece = ps at h
  induction h generalizing before es with
  | blank hblank =>
    obtain rfl := List.map_eq_nil_iff.mp hps
    exact .blank (isBlank_crlf_iff.mpr hblank)
  | @piece p gap w rest ps hgap htrimmed hwhole hparted _ ih =>
    subst hp
    obtain ⟨⟨start, s⟩, es, rfl, he, hes⟩ := List.map_eq_cons_iff.mp hps
    obtain ⟨hstart, rfl⟩ := Piece.mk.inj he
    have hstart : start = (before ++ gap).length := by
      rw [List.length_append]
      omega
    have htake : (before ++ (gap ++ (s ++ rest))).take start = before ++ gap := by
      rw [hstart, ← List.append_assoc, List.take_left]
    have hpiece : sentencePiece (crlfSentence (before ++ (gap ++ (s ++ rest))) (start, s)) =
        ⟨before.crlf.length + gap.crlf.length, s.crlf⟩ := by
      rw [crlfSentence, htake, crlf_append, sentencePiece, List.length_append, Int.natCast_add]
    have hrest := @ih (before ++ gap ++ s) es (by simp only [List.length_append, Int.natCast_add]) hes
    rw [crlf_append, crlf_append, List.length_append, List.length_append, Int.natCast_add,
      Int.natCast_add, List.append_assoc, List.append_assoc] at hrest
    rw [List.map_cons, List.map_cons, hpiece, crlf_append, crlf_append]
    exact .piece (isBlank_crlf_iff.mpr hgap) htrimmed.crlf hwhole.crlf hparted.crlf hrest

/-! ### Joined sentences -/

theorem endsTerminally_iff :
    EndsTerminally t ↔ (t.tails.any fun s => s.head?.any isTerminal && s.tail.all isCloser) = true := by
  simp only [List.any_eq_true, List.mem_tails, Bool.and_eq_true, List.all_eq_true]
  constructor
  · rintro ⟨before, mark, closers, rfl, hmark, hclosers⟩
    exact ⟨mark :: closers, List.suffix_append before _, hmark, hclosers⟩
  · rintro ⟨s, ⟨before, rfl⟩, hmark, hclosers⟩
    cases s with
    | nil => cases hmark
    | cons mark closers => exact ⟨before, mark, closers, rfl, hmark, hclosers⟩

instance (t : Text) : Decidable (EndsTerminally t) := decidable_of_iff _ endsTerminally_iff.symm

/-- Marks part a sentence from the next one. -/
def MarksPart (a b : Nat × Text) : Prop := EndsTerminally a.2 ∧ b.2.startsLower = false

instance (a b : Nat × Text) : Decidable (MarksPart a b) := inferInstanceAs (Decidable (_ ∧ _))

/-- A sentence before others, joined with the first of them unless marks part the two. -/
def joinUnmarked (t : Text) (e : Nat × Text) : List (Nat × Text) → List (Nat × Text)
  | [] => [e]
  | next :: rest =>
    if MarksPart e next then e :: next :: rest
    else (e.1, t.slice e.1 (next.1 + next.2.length)) :: rest

/-- The sentences of a text, those joined that no marks part. -/
def markedSentences (t : Text) : List (Nat × Text) := t.sentences.foldr (joinUnmarked t) []

/-- Two trimmed texts and what stands between them make up a trimmed one. -/
theorem IsTrimmed.append {gap w : Text} (h : IsTrimmed t) (h' : IsTrimmed w) :
    IsTrimmed (t ++ (gap ++ w)) := by
  obtain ⟨⟨c, rest, rfl, hc⟩, -⟩ := isTrimmed_iff.mp h
  obtain ⟨-, front, d, rfl, hd⟩ := isTrimmed_iff.mp h'
  exact isTrimmed_iff.mpr ⟨⟨c, rest ++ (gap ++ (front ++ [d])), rfl, hc⟩,
    c :: rest ++ (gap ++ front), d, by simp only [List.append_assoc], hd⟩

/-- Two whole texts that no marks part make up a whole one. -/
theorem IsWhole.append {s gap w : Text} {c : Char} (hs : IsTrimmed s) (h : IsWhole PartsByMark s)
    (h' : IsWhole PartsByMark (c :: w)) (hgap : ∀ d ∈ gap, isBlank d = true) (hne : gap ≠ [])
    (hc : isBlank c = false) (hnot : ¬ (EndsTerminally s ∧ isLower c = false)) :
    IsWhole PartsByMark (s ++ (gap ++ c :: w)) := by
  rintro a gap' c' b heq hgap' hc' ⟨hne', hterminal, hlower⟩
  -- the gap that would part the whole lies in the second text, between the two or in the first
  rcases List.append_eq_append_iff.mp heq with ⟨x, rfl, hback⟩ | ⟨x, rfl, hback⟩
  · rcases List.append_eq_append_iff.mp hback with ⟨y, rfl, hw⟩ | ⟨y, rfl, hw⟩
    · exact h' y gap' c' b hw hgap' hc' ⟨hne', hterminal.of_append hgap hne, hlower⟩
    · obtain rfl := hterminal.eq_nil_of_isBlank fun d hd => hgap d (List.mem_append_left y hd)
      obtain ⟨-, rfl, -⟩ := append_cons_inj hw hgap' hc' hgap hc
      rw [List.append_nil] at hterminal
      exact hnot ⟨hterminal, hlower⟩
  · cases x with
    | nil =>
      obtain ⟨-, rfl, -⟩ := append_cons_inj hback hgap' hc' hgap hc
      rw [List.append_nil] at hnot
      exact hnot ⟨hterminal, hlower⟩
    | cons d x =>
      obtain ⟨gap₁, c₁, b₁, hx, hgap₁, hc₁⟩ := hs.exists_gap (List.cons_ne_nil d x)
      rw [hx, List.append_assoc, List.cons_append] at hback
      obtain ⟨rfl, rfl, -⟩ := append_cons_inj hback hgap' hc' hgap₁ hc₁
      exact h a gap' c' b₁ (by rw [hx]) hgap' hc' ⟨hne', hterminal, hlower⟩

/-- What is parted from the end of a text is parted from the text. -/
theorem IsParted.append {s rest : Text} (front : Text) (h : IsParted PartsByMark s rest) :
    IsParted PartsByMark (front ++ s) rest := by
  intro gap c b hrest hgap hc
  obtain ⟨hne, hterminal, hlower⟩ := h gap c b hrest hgap hc
  exact ⟨hne, hterminal.append front, hlower⟩

/-- Two pieces of a division make up one if no marks part them. -/
theorem IsDivided.join {p : Int} {gap s gap' w rest : Text} {c : Char} {ps : List Piece}
    (hgap : ∀ c ∈ gap, isBlank c = true) (hs : IsTrimmed s) (hwhole : IsWhole PartsByMark s)
    (hgap' : ∀ c ∈ gap', isBlank c = true) (hne : gap' ≠ []) (hw : IsTrimmed (c :: w))
    (hwhole' : IsWhole PartsByMark (c :: w)) (hparted' : IsParted PartsByMark (c :: w) rest)
    (hc : isBlank c = false) (hnot : ¬ (EndsTerminally s ∧ isLower c = false))
    (h : IsDivided PartsByMark (p + gap.length + s.length + gap'.length + (c :: w).length) rest ps) :
    IsDivided PartsByMark p (gap ++ (s ++ (gap' ++ (c :: w ++ rest))))
      (⟨p + gap.length, s ++ (gap' ++ c :: w)⟩ :: ps) := by
  have htext : gap ++ (s ++ (gap' ++ (c :: w ++ rest))) = gap ++ (s ++ (gap' ++ c :: w) ++ rest) := by
    simp only [List.append_assoc]
  have hposition : p + gap.length + s.length + gap'.length + (c :: w).length =
      p + gap.length + (s ++ (gap' ++ c :: w)).length := by
    simp only [List.length_append]
    omega
  have hparted := hparted'.append (s ++ gap')
  rw [List.append_assoc] at hparted
  rw [htext]
  exact .piece hgap (hs.append hw) (hwhole.append hs hwhole' hgap' hne hc hnot) hparted (hposition ▸ h)

/-- One more sentence before others, joined with the first of them or not, gives one more division. -/
theorem IsDivided.joinUnmarked {before gap s rest : Text} {start : Nat} {es : List (Nat × Text)}
    (hgap : ∀ c ∈ gap, isBlank c = true) (hs : IsTrimmed s) (hwhole : IsWhole PartsByMark s)
    (hparted : IsParted Parts s rest) (hstart : start = before.length + gap.length)
    (h : IsDivided PartsByMark (before.length + gap.length + s.length) rest (es.map sentencePiece)) :
    IsDivided PartsByMark before.length (gap ++ (s ++ rest))
      ((Text.joinUnmarked (before ++ (gap ++ (s ++ rest))) (start, s) es).map sentencePiece) := by
  have hpiece : ∀ w, sentencePiece (start, w) = ⟨before.length + gap.length, w⟩ := by
    intro w
    rw [sentencePiece, hstart, Int.natCast_add]
  generalize hps : es.map sentencePiece = ps at h
  have hall := h
  cases h with
  | blank hblank =>
    obtain rfl := List.map_eq_nil_iff.mp hps
    rw [Text.joinUnmarked, List.map_singleton, hpiece]
    exact .piece hgap hs hwhole (isParted_of_blank hblank) (.blank hblank)
  | @piece _ gap' w rest ps hgap' hw hwhole' hparted' hrest =>
    obtain ⟨⟨start', _⟩, es, rfl, he, hes⟩ := List.map_eq_cons_iff.mp hps
    obtain ⟨hstart', rfl⟩ := Piece.mk.inj he
    obtain ⟨c, w, rfl, hc⟩ := hw.exists_cons
    have hparts : Parts s gap' c := (isParted_append_iff hgap' hc).mp hparted
    rw [Text.joinUnmarked]
    split
    · rename_i hmarks
      have hmarked : IsParted PartsByMark s (gap' ++ c :: (w ++ rest)) :=
        (isParted_append_iff hgap' hc).mpr ⟨hparts.ne_nil, hmarks⟩
      rw [List.map_cons, hpiece, hps]
      exact .piece hgap hs hwhole hmarked hall
    · rename_i hmarks
      have hstop : start' + (c :: w).length = start + (s ++ (gap' ++ c :: w)).length := by
        simp only [List.length_append]
        omega
      have hjoined := @slice_between before gap (s ++ (gap' ++ c :: w)) rest _ _ hstart hstop
      simp only [List.append_assoc] at hjoined
      rw [List.map_cons, hpiece, hes, hjoined]
      exact .join hgap hs hwhole hgap' hparts.ne_nil hw hwhole' hparted' hc hmarks hrest

/-- A text divided as sentences are is divided at marks where the sentences that no marks part are joined. -/
theorem IsDivided.joined {before : Text} {es : List (Nat × Text)}
    (h : IsDivided Parts before.length t (es.map sentencePiece)) :
    IsDivided PartsByMark before.length t
      ((es.foldr (Text.joinUnmarked (before ++ t)) []).map sentencePiece) := by
  generalize hp : (before.length : Int) = p at h
  generalize hps : es.map sentencePiece = ps at h
  induction h generalizing before es with
  | blank hblank =>
    obtain rfl := List.map_eq_nil_iff.mp hps
    exact .blank hblank
  | @piece p gap w rest ps hgap hw hwhole hparted _ ih =>
    subst hp
    obtain ⟨⟨start, s⟩, es, rfl, he, hes⟩ := List.map_eq_cons_iff.mp hps
    obtain ⟨hstart, rfl⟩ := Piece.mk.inj he
    have hrest := @ih (before ++ gap ++ s) es (by simp only [List.length_append, Int.natCast_add]) hes
    rw [List.append_assoc, List.append_assoc] at hrest
    exact .joinUnmarked hgap hw (hwhole.mono fun _ _ _ => .inr) hparted (by omega) hrest

theorem markedSentences_isDivided (t : Text) :
    IsDivided PartsByMark 0 t (t.markedSentences.map sentencePiece) :=
  @IsDivided.joined t [] t.sentences (sentences_isDivided t)

end Crlf

section Joined

variable {t : Text} {e next : Nat × Text} {es : List (Nat × Text)}

theorem joinUnmarked_of_marksPart (h : MarksPart e next) :
    joinUnmarked t e (next :: es) = e :: next :: es := if_pos h

theorem length_joinUnmarked (h : ¬ MarksPart e next) :
    (joinUnmarked t e (next :: es)).length = es.length + 1 := by
  rw [joinUnmarked, if_neg h, List.length_cons]

theorem length_joinUnmarked_le (t : Text) (e : Nat × Text) (es : List (Nat × Text)) :
    (joinUnmarked t e es).length ≤ es.length + 1 := by
  cases es with
  | nil => exact Nat.le_refl _
  | cons next es =>
    by_cases h : MarksPart e next
    · rw [joinUnmarked_of_marksPart h, List.length_cons]
    · rw [length_joinUnmarked h]
      exact Nat.le_succ _

theorem length_foldr_joinUnmarked_le (t : Text) (es : List (Nat × Text)) :
    (es.foldr (joinUnmarked t) []).length ≤ es.length := by
  induction es with
  | nil => exact Nat.le_refl _
  | cons e es ih => exact (length_joinUnmarked_le t e _).trans (Nat.succ_le_succ ih)

/-- Where marks part each two sentences, none are joined. -/
theorem foldr_joinUnmarked_eq (h : es.IsChain MarksPart) : es.foldr (joinUnmarked t) [] = es := by
  induction es with
  | nil => rfl
  | cons e es ih =>
    rw [List.foldr_cons, ih h.tail]
    cases es with
    | nil => rfl
    | cons next es => exact joinUnmarked_of_marksPart (List.isChain_cons_cons.mp h).1

/-- Where no two are joined, marks part each two sentences. -/
theorem isChain_of_length_foldr (h : (es.foldr (joinUnmarked t) []).length = es.length) :
    es.IsChain MarksPart := by
  induction es with
  | nil => exact .nil
  | cons e es ih =>
    rw [List.foldr_cons, List.length_cons] at h
    have hle := length_joinUnmarked_le t e (es.foldr (joinUnmarked t) [])
    have hle' := length_foldr_joinUnmarked_le t es
    have hes := ih (by omega)
    rw [foldr_joinUnmarked_eq hes] at h
    cases es with
    | nil => exact .singleton e
    | cons next es =>
      refine List.isChain_cons_cons.mpr ⟨?_, hes⟩
      by_contra hnot
      rw [length_joinUnmarked hnot, List.length_cons] at h
      omega

end Joined

/-! ### Main statement -/

/-- With carriage returns, the sentences of a text are those that marks part. -/
theorem sentences_crlf_eq (t : Text) : t.crlf.sentences = t.markedSentences.map t.crlfSentence :=
  sentences_eq_iff.mpr (@IsDivided.crlf t [] t.markedSentences (markedSentences_isDivided t))

/-- **Carriage returns.** When each newline of a text becomes a carriage return and a newline, the sentences
are those of the text as they stand in the new one, joined where no marks part them.  So they stay the same,
or at least as many, exactly if marks part each two of them: a blank line alone no longer does. -/
theorem sentences_crlf (t : Text) :
    t.crlf.sentences = t.markedSentences.map t.crlfSentence ∧
      (t.crlf.sentences.map (·.2) = t.sentences.map (·.2.crlf) ↔ t.sentences.IsChain MarksPart) ∧
      (t.crlf.sentences.length = t.sentences.length ↔ t.sentences.IsChain MarksPart) := by
  have hchain : t.crlf.sentences.length = t.sentences.length → t.sentences.IsChain MarksPart := by
    intro h
    rw [sentences_crlf_eq, List.length_map] at h
    exact isChain_of_length_foldr h
  have hsame : t.sentences.IsChain MarksPart → t.crlf.sentences = t.sentences.map t.crlfSentence := by
    intro h
    rw [sentences_crlf_eq, markedSentences, foldr_joinUnmarked_eq h]
  refine ⟨sentences_crlf_eq t, ⟨fun h => hchain ?_, fun h => ?_⟩, hchain, fun h => ?_⟩
  · have hlength := congrArg List.length h
    rwa [List.length_map, List.length_map] at hlength
  · rw [hsame h, List.map_map]
    rfl
  · rw [hsame h, List.length_map]

/-- Two words with a blank line between them are two sentences, and one with carriage returns. -/
theorem exists_sentences_crlf_ne : ∃ t : Text, '\r' ∉ t ∧
    t.sentences = [(0, "One".toList), (5, "two".toList)] ∧
    t.crlf.sentences = [(0, "One\r\n\r\ntwo".toList)] :=
  ⟨"One\n\ntwo".toList, by decide +kernel⟩

end Text

end Copyedit
