import Copyedit.Proofs.Sequence
import Copyedit.Text.Letters
import Copyedit.Yaml.Lexer

/-!
# Tokens of words

Plain words, keys and values among them, are read as they stand there.  `Streams` says that a state gives
tokens one after another; each part of a text in block style gives its own and leads to a state that gives
those of the rest (`Lexer.streams_item`, `Lexer.streams_key`, `Lexer.streams_value` and their likes).  A
word before a colon is pending until the colon has been seen, so the tokens before a key are put in late.
Main statement: the tokens of a list of one mapping that holds such a list again are the ones that it is
written with (`streams_layout`).
-/

namespace Copyedit.Yaml

/-! ### Words -/

/-- A text is a word: letters of ASCII, one at least. -/
structure IsWord (w : Text) : Prop where
  /-- It has a letter. -/
  ne_nil : w ≠ []
  /-- It has nothing else. -/
  letters : ∀ c ∈ w, isAsciiLetter c = true

theorem IsWord.exists_cons {w : Text} (hw : IsWord w) : ∃ c t, w = c :: t ∧ isAsciiLetter c = true := by
  obtain ⟨c, t, rfl⟩ := List.exists_cons_of_ne_nil hw.ne_nil
  exact ⟨c, t, rfl, hw.letters c List.mem_cons_self⟩

theorem isWord_of_all {w : Text} (hne : w ≠ []) (h : w.all isAsciiLetter = true) : IsWord w :=
  ⟨hne, List.all_eq_true.mp h⟩

/-- A word is short enough to be a key. -/
structure IsKey (w : Text) : Prop extends IsWord w where
  /-- It is as long as a key may be, or shorter. -/
  length_le : w.length ≤ Lexer.keyLimit

section Letters

variable {c : Char} (hc : isAsciiLetter c = true)
include hc

theorem ne_of_isAsciiLetter {d : Char} (hd : isAsciiLetter d = false) : c ≠ d := by
  rintro rfl
  rw [hc] at hd
  cases hd

/-- A letter is none of several characters that are no letters. -/
theorem notMem_of_isAsciiLetter {ds : List Char} (hds : ds.any isAsciiLetter = false) : c ∉ ds := by
  intro hmem
  have hnot := List.any_eq_false.mp hds c hmem
  exact hnot hc

theorem toNat_of_isAsciiLetter : (97 ≤ c.toNat ∧ c.toNat ≤ 122) ∨ (65 ≤ c.toNat ∧ c.toNat ≤ 90) := by
  simp only [isAsciiLetter, Char.le_def, UInt32.le_iff_toNat_le, Bool.or_eq_true, Bool.and_eq_true,
    decide_eq_true_eq] at hc
  exact hc

theorem isAllowed_of_isAsciiLetter : isAllowed c = true := by
  have hcode := toNat_of_isAsciiLetter hc
  simp only [isAllowed, Bool.or_eq_true, Bool.and_eq_true, decide_eq_true_eq]
  omega

theorem isGap_of_isAsciiLetter : isGap c = false := by
  have hgaps : c ∉ [' ', '\t', '\n', '\x85', '\u2028', '\u2029'] := notMem_of_isAsciiLetter hc (by decide)
  simp only [List.mem_cons, List.not_mem_nil, or_false, not_or] at hgaps
  simp [isGap, isSpace, isBreak, hgaps]

theorem isBreak_of_isAsciiLetter : isBreak c = false :=
  (Bool.or_eq_false_iff.mp (isGap_of_isAsciiLetter hc)).2

end Letters

/-! ### Cursors -/

namespace Cursor

variable {rest : Text} {index line column : Nat}

/-- Characters that neither end a line nor mark the byte order take a column each. -/
theorem advance_append {front : Text} (h : ∀ c ∈ front, isBreak c = false ∧ c ≠ byteOrderMark)
    (index column : Nat) : advance ⟨front ++ rest, index, line, column⟩ front.length =
      ⟨rest, index + front.length, line, column + front.length⟩ := by
  induction front generalizing index column with
  | nil => rfl
  | cons c front ih =>
    obtain ⟨⟨hbreak, hmark⟩, hfront⟩ := List.forall_mem_cons.mp h
    have hstep : step ⟨c :: (front ++ rest), index, line, column⟩ =
        ⟨front ++ rest, index + 1, line, column + 1⟩ := by
      simp [step, hbreak, hmark]
    rw [List.cons_append, List.length_cons, advance, hstep, ih hfront]
    congr 1 <;> omega

theorem advance_word {w : Text} (hw : ∀ c ∈ w, isAsciiLetter c = true) :
    advance ⟨w ++ rest, index, line, column⟩ w.length =
      ⟨rest, index + w.length, line, column + w.length⟩ :=
  advance_append (fun c hc =>
    ⟨isBreak_of_isAsciiLetter (hw c hc), ne_of_isAsciiLetter (hw c hc) (by decide)⟩) index column

/-- The spaces here and no more are passed over. -/
theorem span_spaces (n : Nat) (hrest : rest.head? ≠ some ' ') :
    span ⟨List.replicate n ' ' ++ rest, index, line, column⟩ (· = ' ') =
      (List.replicate n ' ', ⟨rest, index + n, line, column + n⟩) := by
  have hspaces : ∀ c ∈ List.replicate n ' ', c = ' ' := fun c => List.eq_of_mem_replicate
  have htake : (List.replicate n ' ' ++ rest).takeWhile (· = ' ') = List.replicate n ' ' := by
    refine takeWhile_append_eq (fun c hc => decide_eq_true (hspaces c hc)) fun c hc => ?_
    refine decide_eq_false ?_
    rintro rfl
    exact hrest hc
  have hplain : ∀ c ∈ List.replicate n ' ', isBreak c = false ∧ c ≠ byteOrderMark := by
    intro c hc
    rw [hspaces c hc]
    decide
  have hadvance :
      advance ⟨List.replicate n ' ' ++ rest, index, line, column⟩ (List.replicate n ' ').length = _ :=
    advance_append hplain index column
  rw [List.length_replicate] at hadvance
  simp only [span, htake, List.length_replicate, hadvance]

theorem skipSpaces_eq (n : Nat) (hrest : rest.head? ≠ some ' ') :
    skipSpaces ⟨List.replicate n ' ' ++ rest, index, line, column⟩ =
      ⟨rest, index + n, line, column + n⟩ :=
  congrArg Prod.snd (span_spaces n hrest)

/-- Nothing is passed over where no space is. -/
theorem span_of_ne {c : Cursor} (h : c.rest.head? ≠ some ' ') : span c (· = ' ') = ([], c) :=
  span_spaces 0 h

theorem skipSpaces_of_ne {c : Cursor} (h : c.rest.head? ≠ some ' ') : skipSpaces c = c :=
  congrArg Prod.snd (span_of_ne h)

end Cursor

/-! ### Plain scalars -/

/-- What a word stands before, so that it ends there: a gap, or a colon and a gap. -/
def EndsWord (rest : Text) : Prop :=
  ∃ g after, isGap g = true ∧ (rest = g :: after ∨ rest = ':' :: g :: after)

theorem plainRun_word {w rest : Text} (hw : ∀ c ∈ w, isAsciiLetter c = true) (hrest : EndsWord rest) :
    plainRun false (w ++ rest) = w := by
  induction w with
  | nil =>
    obtain ⟨g, after, hg, rfl | rfl⟩ := hrest
    · simp [plainRun, hg]
    · simp [plainRun, hg]
  | cons c w ih =>
    obtain ⟨hc, hw⟩ := List.forall_mem_cons.mp hw
    have hcolon : c ≠ ':' := ne_of_isAsciiLetter hc (by decide)
    rw [List.cons_append]
    unfold plainRun
    simp [isGap_of_isAsciiLetter hc, hcolon, ih hw]

section Scalars

variable {w rest : Text} {index line column : Nat} {indent : Int}

/-- A word before a colon is a scalar that ends there. -/
theorem plainScalar_key (hw : IsWord w) {g : Char} (hg : isGap g = true) :
    plainScalar false indent ⟨w ++ ':' :: g :: rest, index, line, column⟩ =
      (w, false, ⟨':' :: g :: rest, index + w.length, line, column + w.length⟩) := by
  have hrun := plainRun_word hw.letters ⟨g, rest, hg, .inr rfl⟩
  have hgap : plainGap ⟨':' :: g :: rest, index + w.length, line, column + w.length⟩ =
      ([], false, ⟨':' :: g :: rest, index + w.length, line, column + w.length⟩) := by
    have hcolon : (':' :: g :: rest).head? ≠ some ' ' := by simp
    unfold plainGap
    rw [Cursor.span_of_ne hcolon]
    simp [Cursor.nextIs, Cursor.next?, isBreak]
  obtain ⟨c, w', rfl, hc⟩ := hw.exists_cons
  have hhash : c ≠ '#' := ne_of_isAsciiLetter hc (by decide)
  unfold plainScalar
  rw [plainFrom]
  simp only [hrun, Cursor.advance_word hw.letters, hgap]
  simp [Cursor.at_, Cursor.next?, hhash]

/-- Where no line ends, only spaces are passed over. -/
theorem plainBreaks_spaces {n left : Nat} (hspace : rest.head? ≠ some ' ')
    (hbreak : ∀ c, rest.head? = some c → isBreak c = false) (hle : n ≤ left) (index line column : Nat) :
    plainBreaks ⟨List.replicate n ' ' ++ rest, index, line, column⟩ left =
      some ([], ⟨rest, index + n, line, column + n⟩) := by
  induction left generalizing n index column with
  | zero =>
    obtain rfl := Nat.le_zero.mp hle
    rfl
  | succ left ih =>
    cases n with
    | zero =>
      have hnext : Cursor.nextIs ⟨rest, index, line, column⟩ isBreak = false := by
        cases hrest : rest.head? with
        | none => simp [Cursor.nextIs, Cursor.next?, hrest]
        | some c => simp [Cursor.nextIs, Cursor.next?, hrest, hbreak c hrest]
      rw [List.replicate_zero, List.nil_append, plainBreaks]
      simp [Cursor.at_, Cursor.next?, hspace, hnext]
    | succ n =>
      have hstep : Cursor.step ⟨' ' :: (List.replicate n ' ' ++ rest), index, line, column⟩ =
          ⟨List.replicate n ' ' ++ rest, index + 1, line, column + 1⟩ := rfl
      rw [List.replicate_succ, List.cons_append, plainBreaks, hstep, ih (by omega)]
      simp [Cursor.at_, Cursor.next?]
      omega

/-- A word that ends a line is a scalar.  What follows is indented less, so the scalar ends there. -/
theorem plainScalar_value (hw : IsWord w) (n : Nat) (hindent : n < indent)
    (hseparator : Cursor.isAtSeparator
      ⟨List.replicate n ' ' ++ rest, index + w.length + 1, line + 1, 0⟩ = false)
    (hspace : rest.head? ≠ some ' ') (hbreak : ∀ c, rest.head? = some c → isBreak c = false) :
    plainScalar false indent ⟨w ++ '\n' :: (List.replicate n ' ' ++ rest), index, line, column⟩ =
      (w, true, ⟨rest, index + w.length + 1 + n, line + 1, n⟩) := by
  have hrun : plainRun false (w ++ '\n' :: (List.replicate n ' ' ++ rest)) = w :=
    plainRun_word hw.letters ⟨'\n', _, by decide, .inl rfl⟩
  have hgap : plainGap
      ⟨'\n' :: (List.replicate n ' ' ++ rest), index + w.length, line, column + w.length⟩ =
      ([' '], true, ⟨rest, index + w.length + 1 + n, line + 1, n⟩) := by
    have hend : ('\n' :: (List.replicate n ' ' ++ rest)).head? ≠ some ' ' := by simp
    have hlength : n ≤ n + rest.length := by omega
    have hbreaks := plainBreaks_spaces hspace hbreak hlength (index + w.length + 1) (line + 1) 0
    rw [Nat.zero_add] at hbreaks
    unfold plainGap
    rw [Cursor.span_of_ne hend]
    simp [Cursor.nextIs, Cursor.next?, Cursor.lineBreak, Cursor.step, isBreak, hseparator, hbreaks,
      foldBreaks]
  obtain ⟨c, w', rfl, hc⟩ := hw.exists_cons
  have hhash : c ≠ '#' := ne_of_isAsciiLetter hc (by decide)
  unfold plainScalar
  rw [plainFrom]
  simp only [hrun, Cursor.advance_word hw.letters, hgap]
  simp [Cursor.at_, Cursor.next?, hhash, hindent]

end Scalars

/-! ### Streams of tokens -/

/-- From a state on, tokens are read one after another.  Before the first one is taken, it may be looked at
again. -/
inductive Streams : Lexer → List Token → Prop where
  /-- No more tokens are asked for. -/
  | nil (s : Lexer) : Streams s []
  /-- A token and those after it. -/
  | cons {s s' : Lexer} {t : Token} {ts : List Token} (hpeek : s.peek = .ok (t, s'))
      (hagain : s'.peek = .ok (t, s')) (hrest : Streams s'.take ts) : Streams s (t :: ts)

namespace Lexer

variable {s s' : Lexer} {t : Token} {ts us : List Token}

/-- No token is looked at differently in a state that leads to another one. -/
theorem streams_of_peek_eq (h : s.peek = s'.peek) (hs : Streams s' (t :: ts)) : Streams s (t :: ts) := by
  cases hs with
  | cons hpeek hagain hrest => exact .cons (h.trans hpeek) hagain hrest

/-- A state with tokens is settled if no key is pending. -/
theorem settle_of_pending (htokens : s.tokens ≠ []) (hpending : s.pending = []) (n : Nat) :
    s.settle n = .ok s := by
  cases n with
  | zero => rfl
  | succ n =>
    have hempty : s.tokens.isEmpty = false := by simpa using htokens
    have hstale : s.dropStaleKeys = .ok s := by
      obtain ⟨⟩ := s
      subst hpending
      rfl
    rw [settle, hempty]
    split
    · rfl
    · -- a key can only start at a token that is pending, so nothing more has to be read
      have hkey : s.mayStartKey = false := by
        rw [mayStartKey, hpending]
        rfl
      simp only [hstale, bind, Except.bind, hkey]
      rfl

theorem peek_of_pending {t : Token} (htokens : s.tokens.getLast? = some t) (hpending : s.pending = []) :
    s.peek = .ok (t, s) := by
  have hne : s.tokens ≠ [] := by
    rintro hnil
    rw [hnil] at htokens
    cases htokens
  unfold peek
  rw [settle_of_pending hne hpending]
  simp only [bind, Except.bind, htokens]
  rfl

/-- The tokens that have been read come first. -/
theorem streams_of_tokens (ts : List Token) (hpending : s.pending = []) (htokens : s.tokens = ts.reverse)
    (h : Streams { s with tokens := [], taken := s.taken + ts.length } us) : Streams s (ts ++ us) := by
  -- tokens are kept in reverse, so the first one is the last of the list
  induction ts generalizing s with
  | nil =>
    obtain ⟨⟩ := s
    subst htokens
    exact h
  | cons t ts ih =>
    have hlast : s.tokens.getLast? = some t := by
      rw [htokens, List.getLast?_reverse, List.head?_cons]
    have hpeek := peek_of_pending hlast hpending
    refine .cons hpeek hpeek (ih hpending ?_ ?_)
    · rw [take, htokens, List.reverse_cons, List.dropLast_concat]
    · have htaken : s.taken + 1 + ts.length = s.taken + (t :: ts).length := by
        rw [List.length_cons]
        omega
      rw [take, htaken]
      exact h

theorem peek_of_step (htokens : s.tokens = []) (hdone : s.isDone = false) (hstep : s.step = .ok s')
    (htokens' : s'.tokens ≠ []) (hpending : s'.pending = []) : s.peek = s'.peek := by
  unfold peek
  rw [settle, hdone, htokens, hstep]
  simp only [bind, Except.bind, settle_of_pending htokens' hpending]
  rfl

/-- A token that may start a key is looked at after the next step. -/
theorem peek_of_steps {s'' : Lexer} (htokens : s.tokens = []) (hdone : s.isDone = false)
    (hstep : s.step = .ok s') (hdone' : s'.isDone = false) (htokens' : s'.tokens ≠ [])
    (hstale : s'.dropStaleKeys = .ok s') (hkey : s'.mayStartKey = true) (hstep' : s'.step = .ok s'')
    (htokens'' : s''.tokens ≠ []) (hpending : s''.pending = []) : s.peek = s''.peek := by
  have hempty : s'.tokens.isEmpty = false := by simpa using htokens'
  unfold peek
  rw [settle, hdone, htokens, hstep, settle_of_pending htokens'' hpending]
  simp only [bind, Except.bind, settle, hdone', hempty, hstale, hkey, hstep',
    settle_of_pending htokens'' hpending]
  rfl

/-! ### Steps -/

/-- A state outside of brackets in which nothing is pending. -/
def clear (c : Cursor) (taken : Nat) (indent : Int) (outer : List Int) (allowsKey : Bool) : Lexer :=
  { cursor := c, taken, indent, outer, allowsKey }

/-- Past gaps, a state without tokens stands at a position. -/
structure Stands (s : Lexer) (c : Cursor) (taken : Nat) (indent : Int) (outer : List Int) (allowsKey : Bool) :
    Prop where
  /-- Gaps are passed over. -/
  skip : s.skipGaps (s.cursor.rest.length + 1) = clear c taken indent outer allowsKey
  /-- No token has been read. -/
  tokens_eq : s.tokens = []
  /-- Nor has the end of the text. -/
  isDone_eq : s.isDone = false

variable {rest : Text} {index line column taken : Nat} {indent : Int} {outer : List Int} {allowsKey : Bool}
  {x : Char}

/-- Nothing is passed over where a character stands that is neither a gap nor the mark of a comment. -/
theorem skipGaps_of_visible (hrest : s.cursor.rest = x :: rest) (hx : isGap x = false) (hcomment : x ≠ '#')
    (n : Nat) : s.skipGaps (n + 1) = s := by
  have hspace : x ≠ ' ' := by
    rintro rfl
    cases hx
  have hbreak : isBreak x = false := (Bool.or_eq_false_iff.mp hx).2
  have hne : s.cursor.rest.head? ≠ some ' ' := by simpa [hrest] using hspace
  rw [skipGaps, Cursor.skipSpaces_of_ne hne]
  simp [Cursor.skipComment, Cursor.at_, Cursor.next?, Cursor.nextIs, hrest, hcomment, hbreak, goTo]

/-- Spaces are passed over. -/
theorem stands_of_spaces (n : Nat) (hx : isGap x = false) (hcomment : x ≠ '#') :
    Stands (clear ⟨List.replicate n ' ' ++ x :: rest, index, line, column⟩ taken indent outer allowsKey)
      ⟨x :: rest, index + n, line, column + n⟩ taken indent outer allowsKey := by
  refine ⟨?_, rfl, rfl⟩
  have hspace : x ≠ ' ' := by
    rintro rfl
    cases hx
  have hbreak : isBreak x = false := (Bool.or_eq_false_iff.mp hx).2
  have hskip : Cursor.skipSpaces ⟨List.replicate n ' ' ++ x :: rest, index, line, column⟩ =
      ⟨x :: rest, index + n, line, column + n⟩ :=
    Cursor.skipSpaces_eq n (by simpa using hspace)
  rw [skipGaps]
  simp only [clear, hskip]
  simp [Cursor.skipComment, Cursor.at_, Cursor.next?, Cursor.nextIs, hcomment, hbreak, goTo]

/-- A line end is passed over; a key may start on the next line. -/
theorem skipGaps_line (t : Text) (n : Nat) :
    (clear ⟨'\n' :: t, index, line, column⟩ taken indent outer allowsKey).skipGaps (n + 1) =
      (clear ⟨t, index + 1, line + 1, 0⟩ taken indent outer true).skipGaps n := by
  have hskip : Cursor.skipSpaces ⟨'\n' :: t, index, line, column⟩ = ⟨'\n' :: t, index, line, column⟩ :=
    Cursor.skipSpaces_of_ne (by simp)
  rw [skipGaps]
  simp only [clear, hskip]
  simp [Cursor.skipComment, Cursor.at_, Cursor.next?, Cursor.nextIs, Cursor.lineBreak, Cursor.step, isBreak,
    inFlow]

/-- So does one on the next line. -/
theorem stands_of_line (n : Nat) (hx : isGap x = false) (hcomment : x ≠ '#') :
    Stands
      (clear ⟨'\n' :: (List.replicate n ' ' ++ x :: rest), index, line, column⟩ taken indent outer allowsKey)
      ⟨x :: rest, index + 1 + n, line + 1, n⟩ taken indent outer true := by
  refine ⟨?_, rfl, rfl⟩
  have hnext : Stands
      (clear ⟨List.replicate n ' ' ++ x :: rest, index + 1, line + 1, 0⟩ taken indent outer true)
      ⟨x :: rest, index + 1 + n, line + 1, 0 + n⟩ taken indent outer true := stands_of_spaces n hx hcomment
  rw [Nat.zero_add] at hnext
  rw [skipGaps_line]
  exact hnext.skip

/-- A word stands where it begins. -/
theorem stands_of_word {w : Text} (hw : IsWord w) :
    Stands (clear ⟨w ++ rest, index, line, column⟩ taken indent outer allowsKey)
      ⟨w ++ rest, index, line, column⟩ taken indent outer allowsKey := by
  obtain ⟨c, w', rfl, hc⟩ := hw.exists_cons
  exact ⟨skipGaps_of_visible rfl (isGap_of_isAsciiLetter hc) (ne_of_isAsciiLetter hc (by decide)) _, rfl, rfl⟩

/-- It stands behind a space as well. -/
theorem stands_of_space {w : Text} (hw : IsWord w) :
    Stands (clear ⟨' ' :: (w ++ rest), index, line, column⟩ taken indent outer allowsKey)
      ⟨w ++ rest, index + 1, line, column + 1⟩ taken indent outer allowsKey := by
  obtain ⟨c, w', rfl, hc⟩ := hw.exists_cons
  exact stands_of_spaces 1 (isGap_of_isAsciiLetter hc) (ne_of_isAsciiLetter hc (by decide))

theorem closeBlocks_of_le (hle : s.indent ≤ column) (outer : List Int) : s.closeBlocks column outer = s := by
  cases outer with
  | nil => rfl
  | cons o outer => exact if_neg (Int.not_lt.mpr hle)

/-- A step reads the token that begins past the gaps, when stale keys are dropped and blocks are closed. -/
theorem step_eq {s'' : Lexer} (hstale : (s.skipGaps (s.cursor.rest.length + 1)).dropStaleKeys = .ok s')
    (hunwind : s'.unwind s'.cursor.column = s'') (hnext : s''.cursor.next? = some x) :
    s.step = s''.token x := by
  unfold step
  rw [hstale]
  simp only [bind, Except.bind, hunwind, hnext]

/-- Where no block ends, the next token is the one that begins here. -/
theorem step_of_stands (h : Stands s ⟨x :: rest, index, line, column⟩ taken indent outer allowsKey)
    (hle : indent ≤ column) :
    s.step = (clear ⟨x :: rest, index, line, column⟩ taken indent outer allowsKey).token x := by
  have hunwind : (clear ⟨x :: rest, index, line, column⟩ taken indent outer allowsKey).unwind column =
      clear ⟨x :: rest, index, line, column⟩ taken indent outer allowsKey :=
    closeBlocks_of_le hle outer
  have hstale : (s.skipGaps (s.cursor.rest.length + 1)).dropStaleKeys =
      .ok (clear ⟨x :: rest, index, line, column⟩ taken indent outer allowsKey) := by
    rw [h.skip]
    rfl
  exact step_eq hstale hunwind rfl

/-! ### Items -/

theorem token_item : (clear ⟨'-' :: ' ' :: rest, index, line, column⟩ taken indent outer true).token '-' =
    (clear ⟨'-' :: ' ' :: rest, index, line, column⟩ taken indent outer true).item := by
  have hseparator : Cursor.isAtSeparator ⟨'-' :: ' ' :: rest, index, line, column⟩ = false := by
    cases rest <;> simp [Cursor.isAtSeparator]
  have hgap : Cursor.isGapAt ⟨'-' :: ' ' :: rest, index, line, column⟩ 1 = true := rfl
  simp [token, clear, hseparator, hgap]

/-- A block is open at its column already. -/
theorem startBlock_of_eq {c : Cursor} (hindent : indent = c.column) (t : Token) :
    (clear c taken indent outer true).startBlock t = .ok (clear c taken indent outer true) := by
  have hopen : (clear c taken indent outer true).openBlock c.column =
      (false, clear c taken indent outer true) :=
    if_neg (Int.not_lt.mpr (Int.le_of_eq hindent.symm))
  unfold startBlock
  simp only [show (clear c taken indent outer true).cursor = c from rfl, hopen]
  rfl

/-- A block starts at a column further to the right. -/
theorem startBlock_of_lt {c : Cursor} (hindent : indent < c.column) (t : Token) :
    (clear c taken indent outer true).startBlock t =
      .ok ((clear c taken c.column (indent :: outer) true).push t) := by
  have hopen : (clear c taken indent outer true).openBlock c.column =
      (true, clear c taken c.column (indent :: outer) true) := if_pos hindent
  unfold startBlock
  simp only [show (clear c taken indent outer true).cursor = c from rfl, hopen]
  rfl

/-- The mark of an item in a list whose block is open, or that has none of its own. -/
theorem streams_item (h : Stands s ⟨'-' :: ' ' :: rest, index, line, column⟩ taken indent outer true)
    (hindent : indent = column)
    (hrest : Streams (clear ⟨' ' :: rest, index + 1, line, column + 1⟩ (taken + 1) indent outer true) ts) :
    Streams s (.blockEntry :: ts) := by
  have hstep : s.step = .ok { clear ⟨' ' :: rest, index + 1, line, column + 1⟩ taken indent outer true with
      tokens := [.blockEntry] } := by
    rw [step_of_stands h (Int.le_of_eq hindent), token_item, item, startBlock_of_eq hindent]
    rfl
  refine streams_of_peek_eq (peek_of_step h.tokens_eq h.isDone_eq hstep (List.cons_ne_nil _ _) rfl) ?_
  exact streams_of_tokens [.blockEntry] rfl rfl hrest

/-- The mark of the first item in a list, whose block starts there. -/
theorem streams_firstItem (h : Stands s ⟨'-' :: ' ' :: rest, index, line, column⟩ taken indent outer true)
    (hindent : indent < column)
    (hrest : Streams (clear ⟨' ' :: rest, index + 1, line, column + 1⟩ (taken + 2) column (indent :: outer)
      true) ts) :
    Streams s (.blockSequenceStart :: .blockEntry :: ts) := by
  have hstep : s.step = .ok
      { clear ⟨' ' :: rest, index + 1, line, column + 1⟩ taken column (indent :: outer) true with
        tokens := [.blockEntry, .blockSequenceStart] } := by
    rw [step_of_stands h (Int.le_of_lt hindent), token_item, item, startBlock_of_lt hindent]
    rfl
  refine streams_of_peek_eq (peek_of_step h.tokens_eq h.isDone_eq hstep (List.cons_ne_nil _ _) rfl) ?_
  exact streams_of_tokens [.blockSequenceStart, .blockEntry] rfl rfl hrest

/-! ### Keys and values -/

/-- A letter begins a plain scalar. -/
theorem token_letter (hx : isAsciiLetter x = true) (s : Lexer) : s.token x = s.plain := by
  have hindicators : x ∉ indicators := notMem_of_isAsciiLetter hx (by decide)
  have hstarts : s.startsPlain x = true := by
    unfold startsPlain
    simp [isGap_of_isAsciiLetter hx, hindicators]
  have hmarks : x ∉
      ['%', '-', '.', '[', '\x7b', ']', '\x7d', ',', '?', ':', '*', '&', '!', '|', '>', '\'', '"'] :=
    notMem_of_isAsciiLetter hx (by decide)
  simp only [List.mem_cons, List.not_mem_nil, or_false, not_or] at hmarks
  simp [token, hstarts, hmarks]

section Keys

variable {key : Text} {g : Char}

/-- The state before the colon after a key, which is pending. -/
def afterKey (key rest : Text) (index line column taken : Nat) (indent : Int) (outer : List Int) : Lexer :=
  { clear ⟨rest, index + key.length, line, column + key.length⟩ taken indent outer false with
    tokens := [.scalar key true]
    pending := [(0, { tokens := taken, required := indent == column, index, line, column })] }

theorem plain_key (hkey : IsWord key) (hg : isGap g = true) :
    (clear ⟨key ++ ':' :: g :: rest, index, line, column⟩ taken indent outer true).plain =
      .ok (afterKey key (':' :: g :: rest) index line column taken indent outer) := by
  have hsave : (clear ⟨key ++ ':' :: g :: rest, index, line, column⟩ taken indent outer true).saveKey = .ok
      { clear ⟨key ++ ':' :: g :: rest, index, line, column⟩ taken indent outer true with
        pending := [(0, { tokens := taken, required := indent == column, index, line, column })] } := rfl
  unfold plain
  rw [hsave]
  exact congrArg (fun scalar : Text × Bool × Cursor => Except.ok
    { clear scalar.2.2 taken indent outer scalar.2.1 with
      tokens := [.scalar scalar.1 true]
      pending := [(0, { tokens := taken, required := indent == column, index, line, column })] })
    (plainScalar_key hkey hg)

theorem dropStaleKeys_afterKey (hlength : key.length ≤ keyLimit) :
    (afterKey key rest index line column taken indent outer).dropStaleKeys =
      .ok (afterKey key rest index line column taken indent outer) := by
  simp [dropStaleKeys, afterKey, clear, Nat.not_lt.mpr hlength]

/-- Between key and colon nothing is passed over. -/
theorem step_afterKey (hlength : key.length ≤ keyLimit) (hle : indent ≤ column) :
    (afterKey key (':' :: g :: rest) index line column taken indent outer).step =
      (afterKey key (':' :: g :: rest) index line column taken indent outer).token ':' := by
  have hskip : ∀ n, (afterKey key (':' :: g :: rest) index line column taken indent outer).skipGaps (n + 1) =
      afterKey key (':' :: g :: rest) index line column taken indent outer :=
    skipGaps_of_visible rfl (by decide) (by decide)
  have hunwind : (afterKey key (':' :: g :: rest) index line column taken indent outer).unwind
      (column + key.length : Nat) = afterKey key (':' :: g :: rest) index line column taken indent outer :=
    closeBlocks_of_le (by simp only [afterKey, clear]; omega) outer
  refine step_eq ?_ hunwind rfl
  rw [hskip, dropStaleKeys_afterKey hlength]

theorem token_colon (hg : isGap g = true) :
    (afterKey key (':' :: g :: rest) index line column taken indent outer).token ':' =
      (afterKey key (':' :: g :: rest) index line column taken indent outer).valueMark := by
  have hgap : Cursor.isGapAt (afterKey key (':' :: g :: rest) index line column taken indent outer).cursor 1 =
      true := hg
  simp [token, hgap]

/-- The colon makes a key of what is pending, in a block that is open. -/
theorem valueMark_of_eq (hindent : indent = column) :
    (afterKey key (':' :: g :: rest) index line column taken indent outer).valueMark = .ok
      { clear ⟨g :: rest, index + key.length + 1, line, column + key.length + 1⟩ taken indent outer false with
        tokens := [.value, .scalar key true, .key] } := by
  have hnot : ¬ indent < column := Int.not_lt.mpr (Int.le_of_eq hindent.symm)
  simp [valueMark, afterKey, clear, insertAt, count, openBlock, inFlow, mark, push, goTo, Cursor.step,
    isBreak, byteOrderMark, hnot]
  rfl

/-- The colon makes a key of what is pending, in a block that starts there. -/
theorem valueMark_of_lt (hindent : indent < column) :
    (afterKey key (':' :: g :: rest) index line column taken indent outer).valueMark = .ok
      { clear ⟨g :: rest, index + key.length + 1, line, column + key.length + 1⟩ taken column
          (indent :: outer) false with
        tokens := [.value, .scalar key true, .key, .blockMappingStart] } := by
  simp [valueMark, afterKey, clear, insertAt, count, openBlock, inFlow, mark, push, goTo, Cursor.step,
    isBreak, byteOrderMark, hindent]
  rfl

/-- A word before a colon is looked at when it is known to be a key. -/
theorem peek_of_key {s' : Lexer} (hkey : IsKey key) (hg : isGap g = true)
    (h : Stands s ⟨key ++ ':' :: g :: rest, index, line, column⟩ taken indent outer true)
    (hle : indent ≤ column)
    (hvalue : (afterKey key (':' :: g :: rest) index line column taken indent outer).valueMark = .ok s')
    (htokens : s'.tokens ≠ []) (hpending : s'.pending = []) : s.peek = s'.peek := by
  have hstep : s.step = .ok (afterKey key (':' :: g :: rest) index line column taken indent outer) := by
    obtain ⟨c, key', rfl, hc⟩ := hkey.exists_cons
    rw [step_of_stands h hle, token_letter hc]
    exact plain_key hkey.toIsWord hg
  refine peek_of_steps h.tokens_eq h.isDone_eq hstep rfl (List.cons_ne_nil _ _)
    (dropStaleKeys_afterKey hkey.length_le) ?_
    ((step_afterKey hkey.length_le hle).trans ((token_colon hg).trans hvalue)) htokens hpending
  simp [mayStartKey, afterKey, clear]

/-- A key in a mapping whose block is open. -/
theorem streams_key (hkey : IsKey key) (hg : isGap g = true)
    (h : Stands s ⟨key ++ ':' :: g :: rest, index, line, column⟩ taken indent outer true)
    (hindent : indent = column)
    (hrest : Streams (clear ⟨g :: rest, index + key.length + 1, line, column + key.length + 1⟩ (taken + 3)
      indent outer false) ts) :
    Streams s (.key :: .scalar key true :: .value :: ts) := by
  refine streams_of_peek_eq (peek_of_key hkey hg h (Int.le_of_eq hindent) (valueMark_of_eq hindent)
    (List.cons_ne_nil _ _) rfl) ?_
  exact streams_of_tokens [.key, .scalar key true, .value] rfl rfl hrest

/-- The first key in a mapping, whose block starts there. -/
theorem streams_firstKey (hkey : IsKey key) (hg : isGap g = true)
    (h : Stands s ⟨key ++ ':' :: g :: rest, index, line, column⟩ taken indent outer true)
    (hindent : indent < column)
    (hrest : Streams (clear ⟨g :: rest, index + key.length + 1, line, column + key.length + 1⟩ (taken + 4)
      column (indent :: outer) false) ts) :
    Streams s (.blockMappingStart :: .key :: .scalar key true :: .value :: ts) := by
  refine streams_of_peek_eq (peek_of_key hkey hg h (Int.le_of_lt hindent) (valueMark_of_lt hindent)
    (List.cons_ne_nil _ _) rfl) ?_
  exact streams_of_tokens [.blockMappingStart, .key, .scalar key true, .value] rfl rfl hrest

end Keys

/-- A plain scalar where no key may start. -/
theorem plain_of_scalar {c c' : Cursor} {w : Text} {broken : Bool}
    (h : plainScalar false (indent + 1) c = (w, broken, c')) :
    (clear c taken indent outer false).plain =
      .ok { clear c' taken indent outer broken with tokens := [.scalar w true] } := by
  have hsave : (clear c taken indent outer false).saveKey = .ok (clear c taken indent outer false) := rfl
  unfold plain
  rw [hsave]
  exact congrArg (fun scalar : Text × Bool × Cursor => Except.ok
    { clear scalar.2.2 taken indent outer scalar.2.1 with tokens := [.scalar scalar.1 true] }) h

/-- A word that is the value of a key ends the line. -/
theorem streams_value {w : Text} (hw : IsWord w) (n : Nat) (hn : n ≤ indent) (hle : indent ≤ column + 1)
    (hseparator : ∀ index, Cursor.isAtSeparator ⟨List.replicate n ' ' ++ rest, index, line + 1, 0⟩ = false)
    (hspace : rest.head? ≠ some ' ') (hbreak : ∀ c, rest.head? = some c → isBreak c = false)
    (hrest : Streams (clear ⟨rest, index + 1 + w.length + 1 + n, line + 1, n⟩ (taken + 1) indent outer true)
      ts) :
    Streams (clear ⟨' ' :: (w ++ '\n' :: (List.replicate n ' ' ++ rest)), index, line, column⟩ taken indent
      outer false) (.scalar w true :: ts) := by
  have hscalar : plainScalar false (indent + 1)
      ⟨w ++ '\n' :: (List.replicate n ' ' ++ rest), index + 1, line, column + 1⟩ =
      (w, true, ⟨rest, index + 1 + w.length + 1 + n, line + 1, n⟩) :=
    plainScalar_value hw n (by omega) (hseparator _) hspace hbreak
  have hstep :
      (clear ⟨' ' :: (w ++ '\n' :: (List.replicate n ' ' ++ rest)), index, line, column⟩ taken indent outer
      false).step = .ok { clear ⟨rest, index + 1 + w.length + 1 + n, line + 1, n⟩ taken indent outer true with
        tokens := [.scalar w true] } := by
    obtain ⟨c, w', rfl, hc⟩ := hw.exists_cons
    rw [step_of_stands (stands_of_space hw) (by omega), token_letter hc]
    exact plain_of_scalar hscalar
  refine streams_of_peek_eq (peek_of_step rfl rfl hstep (List.cons_ne_nil _ _) rfl) ?_
  exact streams_of_tokens [.scalar w true] rfl rfl hrest

/-- The end of the text ends all blocks that are open. -/
theorem streams_end : Streams (clear ⟨[], index, line, 0⟩ taken 4 [2, 0, -1] true)
    [.blockEnd, .blockEnd, .blockEnd, .finish] := by
  have hstep : (clear ⟨[], index, line, 0⟩ taken 4 [2, 0, -1] true).step = .ok
      { clear ⟨[], index, line, 0⟩ taken (-1) [] true with
        tokens := [.finish, .blockEnd, .blockEnd, .blockEnd]
        isDone := true } := rfl
  refine streams_of_peek_eq (peek_of_step rfl rfl hstep (List.cons_ne_nil _ _) rfl) ?_
  exact streams_of_tokens [.blockEnd, .blockEnd, .blockEnd, .finish] rfl rfl (.nil _)

end Lexer

/-! ### A layout of words -/

section Layout

/-- A list of one mapping, under whose last key there is another list of one mapping. -/
def layout (a b c d v w x : Text) : Text :=
  '-' :: ' ' :: (a ++ ':' :: ' ' :: (v ++ '\n' :: (List.replicate 2 ' ' ++
    (b ++ ':' :: ' ' :: (w ++ '\n' :: (List.replicate 2 ' ' ++
    (c ++ ':' :: '\n' :: (List.replicate 2 ' ' ++
    '-' :: ' ' :: (d ++ ':' :: ' ' :: (x ++ '\n' :: (List.replicate 0 ' ' ++ [])))))))))))

/-- Its tokens. -/
def layoutTokens (a b c d v w x : Text) : List Token :=
  [.blockSequenceStart, .blockEntry,
    .blockMappingStart, .key, .scalar a true, .value, .scalar v true,
    .key, .scalar b true, .value, .scalar w true,
    .key, .scalar c true, .value, .blockEntry,
    .blockMappingStart, .key, .scalar d true, .value, .scalar x true,
    .blockEnd, .blockEnd, .blockEnd, .finish]

/-- The next word is on the next line, which is indented. -/
theorem isAtSeparator_of_space {rest : Text} {index line n : Nat} :
    Cursor.isAtSeparator ⟨List.replicate (n + 1) ' ' ++ rest, index, line, 0⟩ = false := by
  rw [List.replicate_succ, List.cons_append]
  cases n <;> simp [Cursor.isAtSeparator]

variable {a b c d v w x : Text}

theorem head?_word (hw : IsWord w) (rest : Text) :
    (w ++ rest).head? ≠ some ' ' ∧ ∀ c, (w ++ rest).head? = some c → isBreak c = false := by
  obtain ⟨c, w', rfl, hc⟩ := hw.exists_cons
  rw [List.cons_append, List.head?_cons]
  constructor
  · rw [ne_eq, Option.some_inj]
    exact ne_of_isAsciiLetter hc (by decide)
  · intro c' hc'
    rw [← Option.some.inj hc']
    exact isBreak_of_isAsciiLetter hc

theorem streams_layout (ha : IsKey a) (hb : IsKey b) (hc : IsKey c) (hd : IsKey d) (hv : IsWord v)
    (hw : IsWord w) (hx : IsWord x) :
    Streams { cursor := { rest := layout a b c d v w x } } (layoutTokens a b c d v w x) := by
  unfold layout layoutTokens
  have hfirst : Lexer.Stands { cursor := { rest := layout a b c d v w x } }
      { rest := layout a b c d v w x } 0 (-1) [] true :=
    ⟨Lexer.skipGaps_of_visible rfl (by decide) (by decide) _, rfl, rfl⟩
  -- line by line; the blocks that are opened on the way start at columns 0, 2 and 4
  refine Lexer.streams_firstItem hfirst (by decide) ?_
  refine Lexer.streams_firstKey ha rfl (Lexer.stands_of_space ha.toIsWord) (by omega) ?_
  refine Lexer.streams_value hv 2 (by omega) (by omega) (fun _ => isAtSeparator_of_space)
    (head?_word hb.toIsWord _).1 (head?_word hb.toIsWord _).2 ?_
  refine Lexer.streams_key hb rfl (Lexer.stands_of_word hb.toIsWord) (by omega) ?_
  refine Lexer.streams_value hw 2 (by omega) (by omega) (fun _ => isAtSeparator_of_space)
    (head?_word hc.toIsWord _).1 (head?_word hc.toIsWord _).2 ?_
  refine Lexer.streams_key hc rfl (Lexer.stands_of_word hc.toIsWord) (by omega) ?_
  refine Lexer.streams_item (Lexer.stands_of_line 2 (by decide) (by decide)) (by omega) ?_
  refine Lexer.streams_firstKey hd rfl (Lexer.stands_of_space hd.toIsWord) (by omega) ?_
  refine Lexer.streams_value hx 0 (by omega) (by omega) (fun _ => rfl) nofun nofun ?_
  exact Lexer.streams_end

end Layout

end Copyedit.Yaml
