import Copyedit.Proofs.Checker.Placement
import Copyedit.Proofs.Sentence.Boundary
import Copyedit.Proofs.Sentence.Coverage

/-!
# Paragraphs of a text

A blank line is a newline, spaces or tabs, and another newline (`IsBlankLine`).  As no blank line is inside
a sentence and sentences begin and end with visible characters, each blank line lies between two sentences
(`IsClear`), so the gaps between sentences tell all about them.  Sentences of one paragraph are not parted by
a blank line, and those of different ones are (`paragraphs_arePartedAtBlankLines`).

The main statement `analyze_paragraphs` says what that means for the characters of a text, and that the
paragraphs with too many words are reported, up to the last word within the limit.
-/

namespace Copyedit

namespace Text

/-! ### Blank lines -/

/-- A newline stands at `first` and one at `last`, with spaces and tabs between them. -/
structure IsBlankLine (t : Text) (first last : Nat) : Prop where
  /-- The line that is ended first. -/
  first_eq : t[first]? = some '\n'
  /-- The blank line. -/
  last_eq : t[last]? = some '\n'
  /-- It comes later. -/
  first_lt : first < last
  /-- The line is blank. -/
  between : ∀ n, first < n → n < last → ∃ c, t[n]? = some c ∧ isLineBlank c = true

theorem IsBlankLine.isBlank {t : Text} {first last n : Nat} (h : IsBlankLine t first last) (hle : first ≤ n)
    (hle' : n ≤ last) : ∃ c, t[n]? = some c ∧ Copyedit.isBlank c = true := by
  rcases Nat.eq_or_lt_of_le hle with rfl | hlt
  · exact ⟨_, h.first_eq, by decide⟩
  · rcases Nat.eq_or_lt_of_le hle' with rfl | hlt'
    · exact ⟨_, h.last_eq, by decide⟩
    · obtain ⟨c, hc, hblank⟩ := h.between n hlt hlt'
      exact ⟨c, hc, isBlank_of_isLineBlank hblank⟩

theorem getElem?_slice {t : Text} {i j n : Nat} :
    (t.slice i j)[n]? = if i + n < j then t[i + n]? else none := by
  unfold slice
  rw [List.getElem?_take, List.getElem?_drop]
  exact if_congr (by omega) rfl rfl

/-- A text holds a blank line iff there are places for one. -/
theorem holdsBlankLine_iff {t : Text} : HoldsBlankLine t ↔ ∃ first last, IsBlankLine t first last := by
  constructor
  · rintro ⟨before, line, after, rfl, hline⟩
    refine ⟨before.length, before.length + (line.length + 1), ?_, ?_, by omega, fun n hlt hlt' => ?_⟩
    · simp
    · rw [List.getElem?_append_right (by omega), Nat.add_sub_cancel_left, List.getElem?_cons_succ]
      simp
    · obtain ⟨k, rfl⟩ := Nat.exists_eq_add_of_lt hlt
      rw [List.getElem?_append_right (by omega), show before.length + k + 1 - before.length = k + 1 by omega,
        List.getElem?_cons_succ, List.getElem?_append_left (by omega)]
      exact ⟨_, List.getElem?_eq_getElem (by omega), hline _ (List.getElem_mem _)⟩
  · rintro ⟨first, last, hfirst, hlast, hlt, hbetween⟩
    obtain ⟨hfirstLength, hfirst⟩ := List.getElem?_eq_some_iff.mp hfirst
    obtain ⟨hlastLength, hlast⟩ := List.getElem?_eq_some_iff.mp hlast
    refine ⟨t.take first, t.slice (first + 1) last, t.drop (last + 1), ?_, fun c hc => ?_⟩
    · have hdrop : (t.drop (first + 1)).drop (last - (first + 1)) = t.drop last := by
        rw [List.drop_drop]
        congr 1
        omega
      calc t = t.take first ++ t.drop first := (List.take_append_drop first t).symm
        _ = t.take first ++ '\n' :: t.drop (first + 1) := by
          rw [List.drop_eq_getElem_cons hfirstLength, hfirst]
        _ = t.take first ++ '\n' :: (t.slice (first + 1) last ++ t.drop last) := by
          rw [slice, ← hdrop, List.take_append_drop]
        _ = t.take first ++ '\n' :: (t.slice (first + 1) last ++ '\n' :: t.drop (last + 1)) := by
          rw [List.drop_eq_getElem_cons hlastLength, hlast]
    · obtain ⟨k, hk⟩ := List.mem_iff_getElem?.mp hc
      rw [getElem?_slice, Option.ite_none_right_eq_some] at hk
      obtain ⟨d, hd, hblank⟩ := hbetween (first + 1 + k) (by omega) hk.1
      obtain rfl := Option.some.inj (hd.symm.trans hk.2)
      exact hblank

/-- A stretch of a text holds a blank line iff there are places for one between its ends. -/
theorem holdsBlankLine_slice_iff {t : Text} {i j : Nat} :
    HoldsBlankLine (t.slice i j) ↔ ∃ first last, i ≤ first ∧ last < j ∧ IsBlankLine t first last := by
  rw [holdsBlankLine_iff]
  constructor
  · rintro ⟨first, last, hfirst, hlast, hlt, hbetween⟩
    rw [getElem?_slice, Option.ite_none_right_eq_some] at hfirst hlast
    refine ⟨i + first, i + last, by omega, hlast.1, hfirst.2, hlast.2, by omega, fun n hn hn' => ?_⟩
    obtain ⟨c, hc, hblank⟩ := hbetween (n - i) (by omega) (by omega)
    rw [getElem?_slice, if_pos (by omega), Nat.add_sub_cancel' (by omega)] at hc
    exact ⟨c, hc, hblank⟩
  · rintro ⟨first, last, hle, hlt', hfirst, hlast, hlt, hbetween⟩
    have hget : ∀ n, i ≤ n → n < j → (t.slice i j)[n - i]? = t[n]? := by
      intro n hn hn'
      rw [getElem?_slice, if_pos (by omega), Nat.add_sub_cancel' hn]
    refine ⟨first - i, last - i, ?_, ?_, by omega, fun n hn hn' => ?_⟩
    · rw [hget first hle (by omega), hfirst]
    · rw [hget last (by omega) hlt', hlast]
    · have hn := hget (i + n) (by omega) (by omega)
      rw [Nat.add_sub_cancel_left] at hn
      rw [hn]
      exact hbetween (i + n) (by omega) (by omega)

end Text

namespace LongParagraph

theorem startsBlankLine_iff {t : Text} : startsBlankLine t = true ↔
    ∃ line after, t = line ++ '\n' :: after ∧ ∀ c ∈ line, isLineBlank c = true := by
  induction t with
  | nil => simp [startsBlankLine]
  | cons c rest ih =>
    unfold startsBlankLine
    rw [Bool.or_eq_true, Bool.and_eq_true, ih, decide_eq_true_eq]
    constructor
    · rintro (rfl | ⟨hc, line, after, rfl, hline⟩)
      · exact ⟨[], rest, rfl, List.forall_mem_nil _⟩
      · have hblank : isLineBlank c = true := by
          simpa [isLineBlank] using hc
        exact ⟨c :: line, after, rfl, List.forall_mem_cons.mpr ⟨hblank, hline⟩⟩
    · rintro ⟨_ | ⟨d, line⟩, after, heq, hline⟩
      · exact .inl (List.cons.inj heq).1
      · obtain ⟨rfl, rfl⟩ := List.cons.inj heq
        obtain ⟨hc, hline⟩ := List.forall_mem_cons.mp hline
        exact .inr ⟨by simpa [isLineBlank] using hc, line, after, rfl, hline⟩

/-- The search for a blank line finds one if there is one. -/
theorem hasBlankLine_iff {t : Text} : hasBlankLine t = true ↔ t.HoldsBlankLine := by
  induction t with
  | nil => simp [hasBlankLine, Text.HoldsBlankLine]
  | cons c rest ih =>
    unfold hasBlankLine
    rw [Bool.or_eq_true, Bool.and_eq_true, ih, decide_eq_true_eq, startsBlankLine_iff]
    constructor
    · rintro (⟨rfl, line, after, rfl, hline⟩ | ⟨before, line, after, rfl, hline⟩)
      · exact ⟨[], line, after, rfl, hline⟩
      · exact ⟨c :: before, line, after, rfl, hline⟩
    · rintro ⟨_ | ⟨d, before⟩, line, after, heq, hline⟩
      · obtain ⟨rfl, rfl⟩ := List.cons.inj heq
        exact .inl ⟨rfl, line, after, rfl, hline⟩
      · obtain ⟨rfl, rfl⟩ := List.cons.inj heq
        exact .inr ⟨before, line, after, rfl, hline⟩

end LongParagraph

/-! ### Sentences and blank lines -/

/-- The position after the last character of a sentence. -/
def Sentence.stop (s : Sentence) : Int := s.start + s.text.length

/-- A sentence holds the character at a position. -/
def Sentence.Holds (s : Sentence) (n : Nat) : Prop := s.start ≤ n ∧ n < s.stop

/-- A blank line lies between two sentences. -/
def IsParted (t : Text) (a b : Sentence) : Prop :=
  ∃ first last : Nat, a.stop ≤ first ∧ last < b.start ∧ t.IsBlankLine first last

/-- Each blank line lies before a sentence or behind it. -/
def IsClear (t : Text) (s : Sentence) : Prop :=
  ∀ first last, t.IsBlankLine first last → s.stop ≤ first ∨ last < s.start

theorem IsParted.mono {t : Text} {a b a' b' : Sentence} (h : IsParted t a b) (ha : a'.stop ≤ a.stop)
    (hb : b.start ≤ b'.start) : IsParted t a' b' := by
  obtain ⟨first, last, hfirst, hlast, hline⟩ := h
  exact ⟨first, last, by omega, by omega, hline⟩

/-- What is not parted from the next sentence is parted from a later one only if that one is. -/
theorem IsParted.of_next {t : Text} {s next b : Sentence} (h : IsParted t s b) (hclear : IsClear t next)
    (hnext : ¬ IsParted t s next) : IsParted t next b := by
  obtain ⟨first, last, hfirst, hlast, hline⟩ := h
  rcases hclear first last hline with hbehind | hbefore
  · exact ⟨first, last, hbehind, hlast, hline⟩
  · exact absurd ⟨first, last, hfirst, hbefore, hline⟩ hnext

theorem not_isParted_self {t : Text} {s : Sentence} (hs : s.start < s.stop) : ¬ IsParted t s s := by
  rintro ⟨first, last, hfirst, hlast, hline⟩
  have := hline.first_lt
  omega

/-- A delimited sentence has no blank line inside, and none reaches into it. -/
theorem isClear_of_slice {t : Text} {e : Nat × Text} (htrim : e.2.IsTrimmed)
    (hslice : t.slice e.1 (e.1 + e.2.length) = e.2) (hnot : ¬ e.2.HoldsBlankLine) {s : Sentence}
    (hstart : s.start = e.1) (htext : s.text = e.2) : IsClear t s := by
  intro first last h
  obtain ⟨hne, hhead, hlast⟩ := htrim
  have hpos := List.length_pos_iff.mpr hne
  -- the ends of the sentence are visible, so they are not in the blank line
  have hget : ∀ n, n < e.2.length → t[e.1 + n]? = e.2[n]? := by
    intro n hn
    rw [← hslice, Text.getElem?_slice, if_pos (by omega)]
  have hout : ∀ (n : Nat) (c : Char), n < e.2.length → e.2[n]? = some c → isBlank c = false →
      e.1 + n < first ∨ last < e.1 + n := by
    intro n c hn hc hsolid
    by_contra hin
    obtain ⟨d, hd, hblank⟩ := h.isBlank (n := e.1 + n) (by omega) (by omega)
    rw [hget n hn, hc] at hd
    obtain rfl := Option.some.inj hd
    rw [hsolid] at hblank
    cases hblank
  have hfirst := hout 0 _ hpos (by rw [← List.head?_eq_getElem?, List.head?_eq_some_head hne]) hhead
  have hlast := hout (e.2.length - 1) _ (by omega)
    (by rw [← List.getLast?_eq_getElem?, List.getLast?_eq_some_getLast hne]) hlast
  rw [← hslice, Text.holdsBlankLine_slice_iff] at hnot
  have hstop : s.stop = e.1 + e.2.length := by rw [Sentence.stop, hstart, htext]
  by_contra hreach
  rw [not_or] at hreach
  exact hnot ⟨first, last, by omega, by omega, h⟩

/-- Sentences lie in a text, in order and apart, and no blank line reaches into one. -/
structure AreClear (t : Text) (sentences : List Sentence) : Prop where
  /-- Positions count from the start of the text. -/
  nonneg : ∀ s ∈ sentences, 0 ≤ s.start
  /-- Each has characters. -/
  start_lt_stop : ∀ s ∈ sentences, s.start < s.stop
  /-- They come in order. -/
  ordered : sentences.Pairwise fun a b => a.stop ≤ b.start
  /-- Blank lines lie between them. -/
  clear : ∀ s ∈ sentences, IsClear t s

theorem AreClear.of_cons {t : Text} {s : Sentence} {rest : List Sentence} (h : AreClear t (s :: rest)) :
    AreClear t rest where
  nonneg := (List.forall_mem_cons.mp h.nonneg).2
  start_lt_stop := (List.forall_mem_cons.mp h.start_lt_stop).2
  ordered := (List.pairwise_cons.mp h.ordered).2
  clear := (List.forall_mem_cons.mp h.clear).2

namespace LongParagraph

/-- A paragraph ends between two sentences iff a blank line parts them. -/
theorem breaksBetween_iff {t : Text} {a b : Sentence} (ha : 0 ≤ a.stop) (hb : 0 ≤ b.start) :
    breaksBetween t a b = true ↔ IsParted t a b := by
  obtain ⟨i, hi⟩ := Int.eq_ofNat_of_zero_le ha
  obtain ⟨j, hj⟩ := Int.eq_ofNat_of_zero_le hb
  have hstretch : stretch t a.stop b.start = t.slice i j := by
    rw [stretch_eq t ha hb, hi, hj, Int.toNat_natCast, Int.toNat_natCast, List.drop_take]
    rfl
  unfold breaksBetween IsParted
  rw [hasBlankLine_iff, ← Sentence.stop, hstretch, Text.holdsBlankLine_slice_iff, hi, hj]
  simp only [Int.ofNat_le, Int.ofNat_lt]

/-- Sentences of one paragraph are not parted by a blank line, and those of different ones are. -/
structure ArePartedAtBlankLines (t : Text) (ps : List (List Sentence)) : Prop where
  /-- No paragraph is empty. -/
  ne_nil : ∀ p ∈ ps, p ≠ []
  /-- Within a paragraph there is no blank line. -/
  within : ∀ p ∈ ps, p.Pairwise fun a b => ¬ IsParted t a b
  /-- Between paragraphs there is one. -/
  between : ps.Pairwise fun p q => ∀ a ∈ p, ∀ b ∈ q, IsParted t a b

namespace ArePartedAtBlankLines

variable {t : Text} {s next : Sentence} {more : List Sentence} {ps : List (List Sentence)}

/-- A sentence that is parted from all others makes a paragraph of its own. -/
theorem cons_single (h : ArePartedAtBlankLines t ps) (hs : ∀ q ∈ ps, ∀ b ∈ q, IsParted t s b) :
    ArePartedAtBlankLines t ([s] :: ps) where
  ne_nil := List.forall_mem_cons.mpr ⟨List.cons_ne_nil s [], h.ne_nil⟩
  within := List.forall_mem_cons.mpr ⟨List.pairwise_singleton _ s, h.within⟩
  between := by
    refine List.pairwise_cons.mpr ⟨fun q hq a ha b hb => ?_, h.between⟩
    obtain rfl := List.mem_singleton.mp ha
    exact hs q hq b hb

/-- A sentence that is not parted from the next one joins its paragraph. -/
theorem cons_join (h : ArePartedAtBlankLines t ((next :: more) :: ps)) (hclear : IsClear t next)
    (hnext : next.start < next.stop) (hs : s.stop ≤ next.stop) (hnot : ¬ IsParted t s next) :
    ArePartedAtBlankLines t ((s :: next :: more) :: ps) := by
  obtain ⟨hfirst, hwithin⟩ := List.forall_mem_cons.mp h.within
  obtain ⟨hparted, hbetween⟩ := List.pairwise_cons.mp h.between
  constructor
  · exact List.forall_mem_cons.mpr ⟨List.cons_ne_nil s _, (List.forall_mem_cons.mp h.ne_nil).2⟩
  · refine List.forall_mem_cons.mpr ⟨List.pairwise_cons.mpr ⟨fun b hb hsb => ?_, hfirst⟩, hwithin⟩
    have hnb := hsb.of_next hclear hnot
    rcases List.mem_cons.mp hb with rfl | hb
    · exact not_isParted_self hnext hnb
    · exact (List.pairwise_cons.mp hfirst).1 b hb hnb
  · refine List.pairwise_cons.mpr ⟨fun q hq a ha b hb => ?_, hbetween⟩
    rcases List.mem_cons.mp ha with rfl | ha
    · exact (hparted q hq next List.mem_cons_self b hb).mono hs (Int.le_refl _)
    · exact hparted q hq a ha b hb

end ArePartedAtBlankLines

theorem paragraphs_arePartedAtBlankLines {t : Text} {sentences : List Sentence} (h : AreClear t sentences) :
    ArePartedAtBlankLines t (paragraphs sentences (some t)) := by
  induction sentences with
  | nil => exact ⟨nofun, nofun, .nil⟩
  | cons s rest ih =>
    have hrest := h.of_cons
    have hps := ih hrest
    have hflat := flatten_paragraphs rest (some t)
    show ArePartedAtBlankLines t (addSentence (some t) s (paragraphs rest (some t)))
    generalize paragraphs rest (some t) = ps at hps hflat ⊢
    -- the sentence joins the first paragraph, or makes one of its own
    rcases ps with _ | ⟨_ | ⟨next, more⟩, others⟩
    · exact hps.cons_single nofun
    · exact absurd rfl (hps.ne_nil [] List.mem_cons_self)
    · have hmem : ∀ q ∈ (next :: more) :: others, ∀ b ∈ q, b ∈ rest := fun q hq b hb =>
        hflat ▸ List.mem_flatten.mpr ⟨q, hq, hb⟩
      have hnext : next ∈ rest := hmem _ List.mem_cons_self next List.mem_cons_self
      have hlt := hrest.start_lt_stop next hnext
      have hle := (List.pairwise_cons.mp h.ordered).1 next hnext
      have hstop : 0 ≤ s.stop :=
        Int.le_trans (h.nonneg s List.mem_cons_self) (Int.le_of_lt (h.start_lt_stop s List.mem_cons_self))
      have hbreak := breaksBetween_iff (t := t) hstop (hrest.nonneg next hnext)
      simp only [addSentence, Option.map_some, Option.getD_some]
      split
      · rename_i hparted
        refine hps.cons_single fun q hq b hb => ?_
        -- the next sentence is the first of the others
        have hfirst : next.start ≤ b.start := by
          have hb := hmem q hq b hb
          have hordered := hrest.ordered
          rw [← hflat, List.flatten_cons, List.cons_append] at hb hordered
          rcases List.mem_cons.mp hb with rfl | hb
          · exact Int.le_refl _
          · exact Int.le_trans (Int.le_of_lt hlt) ((List.pairwise_cons.mp hordered).1 b hb)
        exact (hbreak.mp hparted).mono (Int.le_refl _) hfirst
      · rename_i hnot
        rw [hbreak] at hnot
        exact hps.cons_join (hrest.clear next hnext) hlt (Int.le_trans hle (Int.le_of_lt hlt)) hnot

/-! ### Characters of one paragraph -/

/-- Two characters lie in sentences of one paragraph. -/
def AreTogether (ps : List (List Sentence)) (i j : Nat) : Prop :=
  ∃ p ∈ ps, (∃ a ∈ p, a.Holds i) ∧ ∃ b ∈ p, b.Holds j

/-- Characters that sentences hold lie in one paragraph iff there is no blank line between them. -/
theorem areTogether_iff {t : Text} {sentences : List Sentence} (h : AreClear t sentences)
    {i j : Nat} (hle : i ≤ j) (hi : ∃ s ∈ sentences, s.Holds i) (hj : ∃ s ∈ sentences, s.Holds j) :
    AreTogether (paragraphs sentences (some t)) i j ↔ ¬ (t.slice i j).HoldsBlankLine := by
  have hps := paragraphs_arePartedAtBlankLines h
  have hflat := flatten_paragraphs sentences (some t)
  generalize paragraphs sentences (some t) = ps at hps hflat
  rw [Text.holdsBlankLine_slice_iff]
  constructor
  · rintro ⟨p, hp, ⟨a, ha, hai⟩, b, hb, hbj⟩ ⟨first, last, hfirst, hlast, hline⟩
    have hsub : p.Sublist sentences := hflat ▸ List.sublist_flatten_of_mem hp
    have hlt := hline.first_lt
    have hab : IsParted t a b := by
      refine ⟨first, last, ?_, ?_, hline⟩
      · exact (h.clear a (hsub.subset ha) first last hline).resolve_right (by have := hai.1; omega)
      · exact (h.clear b (hsub.subset hb) first last hline).resolve_left (by have := hbj.2; omega)
    have hordered := h.ordered.sublist hsub
    rcases eq_or_rel_of_pairwise ((hps.within p hp).and hordered) ha hb with rfl | ⟨hnot, -⟩ | ⟨-, hba⟩
    · exact not_isParted_self (h.start_lt_stop a (hsub.subset ha)) hab
    · exact hnot hab
    · have := hai.1
      have := hbj.2
      omega
  · intro hnot
    obtain ⟨a, ha, hai⟩ := hi
    obtain ⟨b, hb, hbj⟩ := hj
    obtain ⟨p, hp, hap⟩ := List.mem_flatten.mp (hflat ▸ ha)
    obtain ⟨q, hq, hbq⟩ := List.mem_flatten.mp (hflat ▸ hb)
    rcases eq_or_rel_of_pairwise hps.between hp hq with rfl | hpq | hqp
    · exact ⟨p, hp, ⟨a, hap, hai⟩, b, hbq, hbj⟩
    · obtain ⟨first, last, hfirst, hlast, hline⟩ := hpq a hap b hbq
      exact absurd ⟨first, last, by have := hai.2; omega, by have := hbj.1; omega, hline⟩ hnot
    · obtain ⟨first, last, hfirst, hlast, hline⟩ := hqp b hbq a hap
      have := hline.first_lt
      have := hai.1
      have := hbj.2
      omega

/-! ### Words -/

/-- The tokens of a paragraph that count as words. -/
def wordTokens (sentences : List Sentence) : List Token :=
  (sentences.flatMap (·.tokens)).filter fun k => (k.text.getD []).any isAlphanumeric

theorem wordsOf_eq {tokens : List Token} (h : ∀ k ∈ tokens, ∃ w, k.text = some w) :
    wordsOf tokens = .ok (tokens.filter fun k => (k.text.getD []).any isAlphanumeric) := by
  induction tokens with
  | nil => rfl
  | cons k rest ih =>
    obtain ⟨⟨w, hw⟩, hrest⟩ := List.forall_mem_cons.mp h
    have hword : isWord k = .ok (w.any isAlphanumeric) := by
      unfold isWord Token.characters
      rw [hw]
      rfl
    unfold wordsOf
    rw [hword, ih hrest, List.filter_cons, hw, Option.getD_some]
    cases w.any isAlphanumeric <;> rfl

/-- A finding reports a paragraph with too many words: from its first word to the last one within the limit,
so that it holds as many of the words of the text as are allowed. -/
structure IsReportOf (l : WordLimit) (sentences paragraph : List Sentence) (f : Finding) : Prop where
  /-- It is a finding of this rule. -/
  rule_eq : f.rule = id
  /-- It tells the number of words. -/
  message_eq : f.message = l.message "paragraph" (wordTokens paragraph).length
  /-- It starts with the first word. -/
  start_eq : ∃ k, (wordTokens paragraph)[0]? = some k ∧ f.start = k.start
  /-- It ends with the last word within the limit. -/
  stop_eq : ∃ k, (wordTokens paragraph)[l.most.toNat - 1]? = some k ∧ k.stop = .ok f.stop
  /-- It holds as many words as are allowed. -/
  count_eq : ((wordTokens sentences).filter fun k => f.start ≤ k.start ∧ k.piece.stop ≤ f.stop).length =
    l.most

theorem wordTokens_append (a b : List Sentence) : wordTokens (a ++ b) = wordTokens a ++ wordTokens b := by
  unfold wordTokens
  rw [List.flatMap_append, List.filter_append]

theorem wordTokens_sublist (sentences : List Sentence) :
    (wordTokens sentences).Sublist (sentences.flatMap (·.tokens)) :=
  List.filter_sublist

/-- Of tokens in order, those from one to another are the ones that lie between the ends. -/
theorem filter_between {before inner after : List Token} {first last : Token}
    (hordered : (before ++ (inner ++ after)).Pairwise fun a b => a.piece.stop ≤ b.start)
    (hpos : ∀ k ∈ before ++ (inner ++ after), k.start < k.piece.stop)
    (hfirst : inner.head? = some first) (hlast : inner.getLast? = some last) :
    ((before ++ (inner ++ after)).filter
      fun k => first.start ≤ k.start ∧ k.piece.stop ≤ last.piece.stop) = inner := by
  obtain ⟨-, hrest, hbefore⟩ := List.pairwise_append.mp hordered
  obtain ⟨hinner, -, hafter⟩ := List.pairwise_append.mp hrest
  have hfirstMem := List.mem_of_head? hfirst
  have hlastMem := List.mem_of_getLast? hlast
  have hinnerPos : ∀ k ∈ inner, k.start < k.piece.stop := fun k hk =>
    hpos k (List.mem_append_right _ (List.mem_append_left _ hk))
  have hnone : before.filter (fun k => first.start ≤ k.start ∧ k.piece.stop ≤ last.piece.stop) = [] := by
    refine List.filter_eq_nil_iff.mpr fun k hk => ?_
    have := hbefore k hk first (List.mem_append_left _ hfirstMem)
    have := hpos k (List.mem_append_left _ hk)
    simp only [decide_eq_true_eq]
    omega
  have hnone' : after.filter (fun k => first.start ≤ k.start ∧ k.piece.stop ≤ last.piece.stop) = [] := by
    refine List.filter_eq_nil_iff.mpr fun k hk => ?_
    have := hafter last hlastMem k hk
    have := hpos k (List.mem_append_right _ (List.mem_append_right _ hk))
    simp only [decide_eq_true_eq]
    omega
  have hall : inner.filter (fun k => first.start ≤ k.start ∧ k.piece.stop ≤ last.piece.stop) = inner := by
    refine List.filter_eq_self.mpr fun k hk => ?_
    have hle : first.start ≤ k.start := by
      obtain ⟨rest, rfl⟩ := List.head?_eq_some_iff.mp hfirst
      rcases List.mem_cons.mp hk with rfl | hk
      · exact Int.le_refl _
      · have := (List.pairwise_cons.mp hinner).1 k hk
        have := hinnerPos first hfirstMem
        omega
    have hle' : k.piece.stop ≤ last.piece.stop := by
      obtain ⟨front, rfl⟩ := List.getLast?_eq_some_iff.mp hlast
      rcases List.mem_append.mp hk with hk | hk
      · have := (List.pairwise_append.mp hinner).2.2 k hk last (List.mem_singleton_self last)
        have := hinnerPos last hlastMem
        omega
      · rw [List.mem_singleton.mp hk]
    exact decide_eq_true ⟨hle, hle'⟩
  rw [List.filter_append, List.filter_append, hnone, hall, hnone', List.append_nil]
  rfl

section Reports

variable {l : WordLimit} {t : Text} {sentences paragraph : List Sentence}

/-- A paragraph with few words is not reported. -/
theorem paragraphFindings_of_le (htexts : ∀ k ∈ paragraph.flatMap (·.tokens), ∃ w, k.text = some w)
    (hle : ((wordTokens paragraph).length : Int) ≤ l.most) : paragraphFindings l paragraph = .ok [] := by
  unfold paragraphFindings
  rw [wordsOf_eq htexts]
  exact if_pos hle

/-- A paragraph with too many words is reported. -/
theorem exists_paragraphFindings (htokens : IsTokenized 0 t (sentences.flatMap (·.tokens)))
    {before after : List Sentence} (heq : sentences = before ++ (paragraph ++ after))
    (hlt : l.most < (wordTokens paragraph).length) :
    ∃ f, paragraphFindings l paragraph = .ok [f] ∧ IsReportOf l sentences paragraph f := by
  have hmost := l.most_pos
  have htexts : ∀ k ∈ paragraph.flatMap (·.tokens), ∃ w, k.text = some w := by
    intro k hk
    obtain ⟨w, hw, -⟩ := htokens.solid k (by simp [heq, List.mem_flatMap.mp hk])
    exact ⟨w, hw⟩
  -- the words up to the limit, the first of them and the last one
  obtain ⟨inner, hinner⟩ : ∃ inner, inner = (wordTokens paragraph).take l.most.toNat := ⟨_, rfl⟩
  have hlength : inner.length = l.most.toNat := by
    rw [hinner, List.length_take]
    omega
  obtain ⟨first, hfirst⟩ : ∃ k, (wordTokens paragraph)[0]? = some k :=
    ⟨_, List.getElem?_eq_getElem (by omega)⟩
  obtain ⟨last, hlast⟩ : ∃ k, (wordTokens paragraph)[l.most.toNat - 1]? = some k :=
    ⟨_, List.getElem?_eq_getElem (by omega)⟩
  have hfirst' : inner.head? = some first := by
    rw [hinner, List.head?_eq_getElem?, List.getElem?_take, if_pos (by omega), hfirst]
  have hlast' : inner.getLast? = some last := by
    rw [List.getLast?_eq_getElem?, hlength, hinner, List.getElem?_take, if_pos (by omega), hlast]
  have hwords : wordTokens sentences =
      wordTokens before ++ (inner ++ ((wordTokens paragraph).drop l.most.toNat ++ wordTokens after)) := by
    rw [heq, wordTokens_append, wordTokens_append, hinner, ← List.append_assoc (List.take _ _),
      List.take_append_drop]
  have hsub := wordTokens_sublist sentences
  have hordered := (List.pairwise_map.mp htokens.layout.pairwise).sublist hsub
  have hpos : ∀ k ∈ wordTokens sentences, k.start < k.piece.stop := fun k hk =>
    (htokens.layout.bounds (List.mem_map_of_mem (hsub.subset hk))).2.1
  have hmem : last ∈ wordTokens sentences := by
    rw [hwords]
    exact List.mem_append_right _ (List.mem_append_left _ (List.mem_of_getLast? hlast'))
  have hstop := htokens.stop_eq (hsub.subset hmem)
  rw [hwords] at hordered hpos
  refine ⟨{
    rule := id, message := l.message "paragraph" (wordTokens paragraph).length, start := first.start,
    stop := last.piece.stop, shortMessage := .text "Long paragraph" }, ?_, ?_⟩
  · unfold paragraphFindings
    rw [wordsOf_eq htexts, ← wordTokens]
    refine (if_neg (Int.not_le.mpr hlt)).trans ?_
    rw [List.head?_eq_getElem?, hfirst, hlast]
    exact map_ok_iff.mpr ⟨_, hstop, rfl⟩
  · refine ⟨rfl, rfl, ⟨first, hfirst, rfl⟩, ⟨last, hlast, hstop⟩, ?_⟩
    rw [hwords, filter_between hordered hpos hfirst' hlast', hlength]
    omega

/-- The paragraphs with too many words are reported, in order. -/
theorem exists_findings (htokens : IsTokenized 0 t (sentences.flatMap (·.tokens))) (text : Option Text) :
    ∃ found, findings l sentences text = .ok found ∧ List.Forall₂ (IsReportOf l sentences)
      ((paragraphs sentences text).filter fun p => l.most < (wordTokens p).length) found := by
  -- along the paragraphs, of which those in `before` have been looked at
  have hall : ∀ ps before : List (List Sentence), sentences = before.flatten ++ ps.flatten →
      ∃ parts, ps.mapM (paragraphFindings l) = .ok parts ∧ List.Forall₂ (IsReportOf l sentences)
        (ps.filter fun p => l.most < (wordTokens p).length) parts.flatten := by
    intro ps
    induction ps with
    | nil => exact fun _ _ => ⟨[], rfl, .nil⟩
    | cons p rest ih =>
      intro before heq
      rw [List.flatten_cons] at heq
      obtain ⟨parts, hparts, hreports⟩ := ih (before ++ [p]) (by simp [heq])
      rw [List.mapM_cons, hparts]
      by_cases hlt : l.most < (wordTokens p).length
      · obtain ⟨f, hf, hreport⟩ := exists_paragraphFindings htokens heq hlt
        refine ⟨[f] :: parts, by rw [hf]; rfl, ?_⟩
        rw [List.filter_cons_of_pos (by simpa using hlt), List.flatten_cons, List.singleton_append]
        exact .cons hreport hreports
      · have htexts : ∀ k ∈ p.flatMap (·.tokens), ∃ w, k.text = some w := by
          intro k hk
          obtain ⟨w, hw, -⟩ := htokens.solid k (by simp [heq, List.mem_flatMap.mp hk])
          exact ⟨w, hw⟩
        refine ⟨[] :: parts, by rw [paragraphFindings_of_le htexts (Int.not_lt.mp hlt)]; rfl, ?_⟩
        rw [List.filter_cons_of_neg (by simpa using hlt), List.flatten_cons, List.nil_append]
        exact hreports
  obtain ⟨parts, hparts, hreports⟩ := hall (paragraphs sentences text) []
    (flatten_paragraphs sentences text).symm
  exact ⟨parts.flatten, map_ok_iff.mpr ⟨parts, hparts, rfl⟩, hreports⟩

end Reports

end LongParagraph

namespace Checker

variable {c : Checker} {t : Text}

theorem analyzed_areClear (hplain : c.profile.IsPlain) : AreClear t (c.analyzed t) := by
  have hlayout := analyzed_layout (t := t) hplain
  have hbounds := fun s (hs : s ∈ c.analyzed t) => hlayout.bounds (List.mem_map_of_mem (f := piece) hs)
  refine ⟨fun s hs => (hbounds s hs).1, fun s hs => (hbounds s hs).2.1, analyzed_apart hplain, fun s hs => ?_⟩
  unfold analyzed at hs
  rw [hplain.split_eq] at hs
  obtain ⟨e, he, rfl⟩ := List.mem_map.mp hs
  exact isClear_of_slice (Text.sentences_trimmed t e he) ((Text.hasSentences_sentences t).slice_eq e he)
    (Text.sentences_not_holdsBlankLine t e he) rfl rfl

/-- Each visible character is held by a sentence. -/
theorem exists_holds (hplain : c.profile.IsPlain) {n : Nat} (hn : n < t.length)
    (hsolid : isBlank t[n] = false) : ∃ s ∈ c.analyzed t, s.Holds n := by
  obtain ⟨_, hq, hstart, hstop⟩ := (analyzed_layout (t := t) hplain).exists_piece hn hsolid
  obtain ⟨s, hs, rfl⟩ := List.mem_map.mp hq
  rw [Int.zero_add] at hstart hstop
  exact ⟨s, hs, hstart, hstop⟩

/-- **Paragraphs.** With a plain profile, the paragraphs of a text are its sentences in order, and two visible characters lie in sentences of one paragraph iff there is no blank line
between them.  Those with more words than the limit are reported, in order, from the first word to the last
one within the limit. -/
theorem analyze_paragraphs (c : Checker) (hplain : c.profile.IsPlain) (l : WordLimit) (t : Text) :
    ∃ sentences found, c.analyze (some t) = .ok sentences ∧
      (LongParagraph.paragraphs sentences (some t)).flatten = sentences ∧
      (∀ i j (_ : i < t.length) (_ : j < t.length), i ≤ j → isBlank t[i] = false → isBlank t[j] = false →
        (LongParagraph.AreTogether (LongParagraph.paragraphs sentences (some t)) i j ↔
          ¬ (t.slice i j).HoldsBlankLine)) ∧
      LongParagraph.findings l sentences (some t) = .ok found ∧
      List.Forall₂ (LongParagraph.IsReportOf l sentences)
        ((LongParagraph.paragraphs sentences (some t)).filter
          fun p => l.most < (LongParagraph.wordTokens p).length) found := by
  obtain ⟨found, hfound, hreports⟩ :=
    LongParagraph.exists_findings (l := l) (analyzed_isTokenized (t := t) hplain) (some t)
  refine ⟨c.analyzed t, found, rfl, LongParagraph.flatten_paragraphs _ _, ?_, hfound, hreports⟩
  intro i j hi hj hle hsolid hsolid'
  exact LongParagraph.areTogether_iff (analyzed_areClear hplain) hle (exists_holds hplain hi hsolid)
    (exists_holds hplain hj hsolid')

/-- A checker without rules. -/
def plainReader : Checker where
  profile := .generic
  settings := .standard
  rules := []

theorem analyze_paragraphs_plainReader :
    plainReader.profile.IsPlain ∧
      ∃ sentences found, plainReader.analyze (some "Ant. Bee\n \ncat dog, 3 hen".toList) = .ok sentences ∧
        LongParagraph.findings ⟨3, by decide⟩ sentences (some "Ant. Bee\n \ncat dog, 3 hen".toList) =
          .ok found ∧
        (LongParagraph.paragraphs sentences (some "Ant. Bee\n \ncat dog, 3 hen".toList)).map List.length =
          [2, 1] ∧
        found.map (fun f => (f.start, f.stop)) = [(11, 21)] := by
  have hplain : plainReader.profile.IsPlain := ⟨rfl, rfl, nofun, rfl⟩
  obtain ⟨sentences, found, hanalyze, -, -, hfound, -⟩ :=
    analyze_paragraphs plainReader hplain ⟨3, by decide⟩ "Ant. Bee\n \ncat dog, 3 hen".toList
  obtain rfl : plainReader.analyzed "Ant. Bee\n \ncat dog, 3 hen".toList = sentences :=
    Except.ok.inj hanalyze
  have hranges : (LongParagraph.findings ⟨3, by decide⟩
      (plainReader.analyzed "Ant. Bee\n \ncat dog, 3 hen".toList)
      (some "Ant. Bee\n \ncat dog, 3 hen".toList)).toOption.map (List.map fun f => (f.start, f.stop)) =
      some [(11, 21)] := by
    decide +kernel
  rw [hfound] at hranges
  exact ⟨hplain, _, found, hanalyze, hfound, by decide +kernel, Option.some.inj hranges⟩

end Checker

end Copyedit
