import Copyedit.Proofs.Sentence.Tokenize
import Copyedit.Proofs.Sequence

/-!
# Tokens joined again

Where a text is made of its tokens and of blanks, what stands behind a token is made of the tokens behind it
(`IsTokenized.exists_of_append`).  The flag of a token says whether there is a gap before it, and so it stands
for the whole gap, which is a run of blanks that nothing lengthens: the tokens beside it hold none.  Token by
token, what joining puts together is the text with one space in place of each run of blanks
(`IsTokenized.exists_singleSpaced`), wherever the first of the joined tokens stands
(`Text.surfaceText_stretch`).
-/

namespace Copyedit

/-! ### Runs of blanks -/

namespace Text

/-- The text with one space in place of each run of blanks. -/
def singleSpaced : Text → Text
  | [] => []
  | c :: rest =>
    if isBlank c then ' ' :: singleSpaced (rest.dropWhile isBlank) else c :: singleSpaced rest
termination_by t => t.length
decreasing_by
  · exact Nat.lt_succ_of_le (List.dropWhile_suffix isBlank).length_le
  · exact Nat.lt_succ_self _

@[simp] theorem singleSpaced_nil : singleSpaced [] = [] := by rw [singleSpaced]

/-- Characters that are not blank stay. -/
theorem singleSpaced_append {w : Text} (hw : ∀ c ∈ w, isBlank c = false) (t : Text) :
    singleSpaced (w ++ t) = w ++ t.singleSpaced := by
  induction w with
  | nil => rfl
  | cons c w ih =>
    obtain ⟨hc, hw⟩ := List.forall_mem_cons.mp hw
    rw [List.cons_append, singleSpaced, if_neg (Bool.eq_false_iff.mp hc), ih hw, List.cons_append]

/-- Blanks before a character that is not blank are a run, if there are any. -/
theorem singleSpaced_gap {gap w : Text} (hgap : ∀ c ∈ gap, isBlank c = true) (hne : w ≠ [])
    (hw : ∀ c ∈ w, isBlank c = false) (t : Text) :
    singleSpaced (gap ++ (w ++ t)) = (if gap = [] then [] else [' ']) ++ (w ++ t.singleSpaced) := by
  cases gap with
  | nil => rw [List.nil_append, if_pos rfl, List.nil_append, singleSpaced_append hw]
  | cons c gap =>
    obtain ⟨hc, hgap⟩ := List.forall_mem_cons.mp hgap
    obtain ⟨d, w, rfl⟩ := List.exists_cons_of_ne_nil hne
    have hd := (List.forall_mem_cons.mp hw).1
    have hdrop : (gap ++ (d :: w ++ t)).dropWhile isBlank = d :: w ++ t :=
      dropWhile_append_eq hgap (eq_false_of_head? hd)
    rw [List.cons_append, singleSpaced, if_pos hc, hdrop, singleSpaced_append hw,
      if_neg (List.cons_ne_nil c gap), List.singleton_append]

end Text

/-! ### Joining tokens -/

namespace Token

/-- What a token adds to those before it: its text, and a space if a blank stood before it. -/
def spacedText (k : Token) : Text := (if k.spaceBefore then [' '] else []) ++ k.text.getD []

/-- A token says that a blank stands before it exactly when there is a gap behind the one before. -/
def TellsGap (a b : Token) : Prop := ∃ stop, a.stop = .ok stop ∧ (b.spaceBefore = true ↔ stop < b.start)

/-- The flag of a token stands for the whole gap before it. -/
theorem TellsGap.spacedText_eq {a b : Token} (h : a.TellsGap b) {p : Int} {gap w : Text}
    (ha : a.stop = .ok p) (hb : b.start = p + gap.length) (htext : b.text = some w) :
    b.spacedText = (if gap = [] then [] else [' ']) ++ w := by
  obtain ⟨stop, hstop, hflag⟩ := h
  obtain rfl := Except.ok.inj (ha.symm.trans hstop)
  have hgap : b.spaceBefore = true ↔ gap ≠ [] := by
    rw [hflag, hb, ← List.length_pos_iff]
    omega
  unfold spacedText
  rw [htext, Option.getD_some]
  by_cases hnil : gap = []
  · rw [if_pos hnil, if_neg (mt hgap.mp (not_not_intro hnil))]
  · rw [if_neg hnil, if_pos (hgap.mpr hnil)]

end Token

/-- Tokens with texts are joined one after another. -/
theorem surfaceText_cons {first : Token} {rest : List Token}
    (htexts : ∀ k ∈ first :: rest, k.text.isSome = true) :
    surfaceText (first :: rest) = .ok (first.text.getD [] ++ rest.flatMap Token.spacedText) := by
  have hnone : (first.text :: rest.flatMap fun t =>
      (if t.spaceBefore then [some [' ']] else []) ++ [t.text]).findIdx? (·.isNone) = none := by
    rw [List.findIdx?_eq_none_iff]
    intro part hpart
    rw [Option.isNone_eq_false_iff]
    rcases List.mem_cons.mp hpart with rfl | hpart
    · exact htexts first List.mem_cons_self
    obtain ⟨k, hk, hpart⟩ := List.mem_flatMap.mp hpart
    rcases List.mem_append.mp hpart with hspace | htext
    · split at hspace
      · rw [List.mem_singleton.mp hspace]
        rfl
      · cases hspace
    · rw [List.mem_singleton.mp htext]
      exact htexts k (List.mem_cons_of_mem first hk)
  have hspaced : ∀ k : Token, ((if k.spaceBefore then [some [' ']] else []) ++ [k.text]).flatMap
      (·.getD []) = k.spacedText := by
    intro k
    unfold Token.spacedText
    split_ifs <;> simp
  unfold surfaceText
  simp only [hnone, List.flatMap_cons, List.flatMap_assoc, hspaced]

/-! ### Tokens one after another -/

namespace IsTokenized

variable {p : Int} {t : Text} {k : Token} {front tokens : List Token}

/-- The first token stands behind blanks, and the others make up the text behind it. -/
theorem exists_of_cons (h : IsTokenized p t (k :: tokens)) : ∃ gap w rest, t = gap ++ (w ++ rest) ∧
    (∀ c ∈ gap, isBlank c = true) ∧ w ≠ [] ∧ (∀ c ∈ w, isBlank c = false) ∧ k.text = some w ∧
    k.start = p + gap.length ∧ IsTokenized (k.start + w.length) rest tokens := by
  obtain ⟨hlayout, hsolid⟩ := h
  obtain ⟨⟨w, hw, hblank⟩, hsolid⟩ := List.forall_mem_cons.mp hsolid
  have hpiece : k.piece = ⟨k.start, w⟩ := by rw [Token.piece, hw, Option.getD_some]
  rw [List.map_cons, hpiece] at hlayout
  generalize hstart : k.start = start at hlayout ⊢
  cases hlayout with
  | @piece _ gap _ rest _ hgap hne hrest =>
    exact ⟨gap, w, rest, rfl, hgap, hne, hblank, hw, rfl, hrest, hsolid⟩

/-- Any token stands behind some of the text, and those after it make up the text behind it. -/
theorem exists_of_append (h : IsTokenized p t (front ++ k :: tokens)) : ∃ before w rest,
    t = before ++ (w ++ rest) ∧ (∀ c ∈ w, isBlank c = false) ∧ k.text = some w ∧
    k.start = p + before.length ∧ IsTokenized (k.start + w.length) rest tokens := by
  induction front generalizing p t with
  | nil =>
    obtain ⟨gap, w, rest, ht, -, -, hw⟩ := h.exists_of_cons
    exact ⟨gap, w, rest, ht, hw⟩
  | cons x front ih =>
    obtain ⟨gap, v, rest, rfl, -, -, -, -, hstart, hrest⟩ := h.exists_of_cons
    obtain ⟨before, w, rest, rfl, hw, htext, hstart', hrest⟩ := ih hrest
    refine ⟨gap ++ (v ++ before), w, rest, by simp only [List.append_assoc], hw, htext, ?_, hrest⟩
    rw [hstart', hstart, List.length_append, List.length_append]
    omega

/-- Behind a token, the other tokens up to any one of them are the text up to its end with one space in place
of each run of blanks. -/
theorem exists_singleSpaced (h : IsTokenized p t tokens) (hk : k.stop = .ok p)
    (hgaps : (k :: tokens).IsChain Token.TellsGap) {n : Nat} (hn : n ≤ tokens.length) :
    ∃ front rest last, t = front ++ rest ∧ (k :: tokens)[n]? = some last ∧
      last.stop = .ok (p + front.length) ∧
      (tokens.take n).flatMap Token.spacedText = front.singleSpaced := by
  -- one token more is a gap and a text more, and the rest is behind that token what it was behind `k`
  induction n generalizing p t k tokens with
  | zero => exact ⟨[], t, k, rfl, rfl, by simpa using hk, by simp⟩
  | succ n ih =>
    obtain ⟨x, tokens, rfl⟩ := List.exists_cons_of_length_pos (Nat.zero_lt_of_lt hn)
    obtain ⟨hgap, hgaps⟩ := List.isChain_cons_cons.mp hgaps
    obtain ⟨gap, w, rest, rfl, hblank, hne, hw, htext, hstart, hrest⟩ := h.exists_of_cons
    obtain ⟨front, rest, last, rfl, hlast, hlastStop, hfront⟩ :=
      ih hrest (Token.stop_of_text htext) hgaps (Nat.le_of_succ_le_succ hn)
    refine ⟨gap ++ (w ++ front), rest, last, by simp only [List.append_assoc], hlast, ?_, ?_⟩
    · rw [hlastStop, hstart, List.length_append, List.length_append]
      congr 1
      omega
    · rw [List.take_succ_cons, List.flatMap_cons, hfront, hgap.spacedText_eq hk hstart htext,
        Text.singleSpaced_gap hblank hne hw, List.append_assoc]

/-- From any token on, tokens that are joined give the text between their ends with one space in place of
each run of blanks. -/
theorem exists_surfaceText (h : IsTokenized p t (front ++ k :: tokens))
    (hgaps : (front ++ k :: tokens).IsChain Token.TellsGap) {n : Nat} (hn : n ≤ tokens.length) :
    ∃ (last : Token) (first stop : Nat),
      (k :: tokens)[n]? = some last ∧ k.start = p + first ∧ last.stop = .ok (p + stop) ∧
      surfaceText (k :: tokens.take n) = .ok (t.slice first stop).singleSpaced := by
  have htexts : ∀ x ∈ k :: tokens.take n, x.text.isSome = true := by
    intro x hx
    have hsub : k :: tokens.take n ⊆ front ++ k :: tokens :=
      List.Subset.trans ((List.take_sublist n tokens).cons_cons k).subset (List.subset_append_right front _)
    obtain ⟨w, hw, -⟩ := h.solid x (hsub hx)
    exact Option.isSome_of_eq_some hw
  obtain ⟨before, w, rest, rfl, hw, htext, hstart, hrest⟩ := h.exists_of_append
  obtain ⟨between, rest, last, rfl, hlast, hlastStop, hjoined⟩ :=
    hrest.exists_singleSpaced (Token.stop_of_text htext) hgaps.right_of_append hn
  have hslice : (before ++ (w ++ (between ++ rest))).slice before.length
      (before.length + (w ++ between).length) = w ++ between := by
    rw [← List.append_assoc w, Text.slice_append]
  refine ⟨last, before.length, before.length + (w ++ between).length, hlast, hstart, ?_, ?_⟩
  · rw [hlastStop, hstart, List.length_append]
    congr 1
    omega
  · rw [surfaceText_cons htexts, htext, Option.getD_some, hjoined, hslice, Text.singleSpaced_append hw]

end IsTokenized

/-! ### Main statement -/

namespace Text

/-- **Tokens joined again.**  Some tokens of a sentence that stand next to each other, joined again, are the
text from the start of the first to the end of the last one, with one space in place of each run of
blanks. -/
theorem surfaceText_stretch (t : Text) (offset : Int) {i j : Nat} (hij : i < j)
    (hj : j ≤ (t.tokens offset).length) : ∃ (a b : Token) (first stop : Nat),
      (t.tokens offset)[i]? = some a ∧ (t.tokens offset)[j - 1]? = some b ∧
      a.start = offset + first ∧ b.stop = .ok (offset + stop) ∧
      surfaceText (stretch (t.tokens offset) i j) = .ok (t.slice first stop).singleSpaced := by
  have htokens : IsTokenized offset t (t.tokens offset) := tokensFrom_isTokenized offset false true t
  have hgaps : (t.tokens offset).IsChain Token.TellsGap := (tokensFrom_spaceBefore offset false true t).2
  generalize t.tokens offset = tokens at hj htokens hgaps ⊢
  obtain ⟨n, rfl⟩ := Nat.exists_eq_add_of_lt hij
  obtain ⟨front, a, back, rfl, rfl⟩ : ∃ front a back, tokens = front ++ a :: back ∧ front.length = i :=
    ⟨tokens.take i, tokens[i], tokens.drop (i + 1), by simp, by simp; omega⟩
  have hn : n ≤ back.length := by
    rw [List.length_append, List.length_cons] at hj
    omega
  obtain ⟨b, first, stop, hb, hstart, hstop, hjoined⟩ := htokens.exists_surfaceText hgaps hn
  refine ⟨a, b, first, stop, ?_, ?_, hstart, hstop, ?_⟩
  · rw [List.getElem?_append_right (Nat.le_refl _), Nat.sub_self, List.getElem?_cons_zero]
  · rw [Nat.add_sub_cancel, List.getElem?_append_right (Nat.le_add_right _ _), Nat.add_sub_cancel_left, hb]
  · rw [stretch_append_cons, hjoined]

/-- A list with a tab and a line end in it. -/
def shoppingList : Text := "Tea,\tmilk \n and (no) sugar".toList

/-- From the comma to the bracket, single spaces stand for the tab and the line end. -/
theorem surfaceText_shoppingList : 1 < 5 ∧ 5 ≤ (shoppingList.tokens 7).length ∧
    surfaceText (stretch (shoppingList.tokens 7) (1 : Nat) (5 : Nat)) = .ok ", milk and (".toList := by
  have hlength : 5 ≤ (shoppingList.tokens 7).length := by decide +kernel
  refine ⟨by decide, hlength, ?_⟩
  obtain ⟨a, b, first, stop, ha, hb, hstart, hstop, hjoined⟩ :=
    surfaceText_stretch shoppingList 7 (i := 1) (j := 5) (by decide) hlength
  have hcomma : (shoppingList.tokens 7)[1]? = some { text := some [','], start := 10 } := by
    decide +kernel
  have hbracket : (shoppingList.tokens 7)[5 - 1]? =
      some { text := some ['('], start := 23, spaceBefore := true } := by decide +kernel
  obtain rfl := Option.some.inj (ha.symm.trans hcomma)
  obtain rfl := Option.some.inj (hb.symm.trans hbracket)
  obtain rfl : first = 3 := by
    dsimp only at hstart
    omega
  obtain rfl : stop = 17 := by
    have hstop := Except.ok.inj hstop
    simp at hstop
    omega
  rw [hjoined]
  exact congrArg Except.ok (by decide +kernel)

end Text

end Copyedit
