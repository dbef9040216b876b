import Copyedit.Proofs.Outcome
import Copyedit.Rules.Repetition

/-!
# Repeated words

A token is a repeat if it is the same word as the one before it, up to case, with a letter in it and a blank
before it, and is not allowed to come twice (`IsRepeat`).  The scan goes one token on where it finds none, and
two where it reports one.  So it reports repeats alone, in pairs that share no token, and it passes over a
repeat only right behind one that it has reported (`findingsFrom_isReport`).

In a row of tokens that each repeat the one before, every second one is then reported: where the row goes no
further on either side, `n` tokens make `n / 2` findings (`IsReport.countP_touches`).  The main statement
`findings_repeats` says so of all sentences; nothing but a token without a text makes the rule fail.
-/

namespace Copyedit

/-- A finding reports two neighbouring tokens, of which the first has an index, as repeated words. -/
structure Finding.IsPair (f : Finding) (index : Nat) (a b : Token) : Prop where
  /-- It is one on repeated words. -/
  rule_eq : f.rule = RepetitionRule.id
  /-- Its tokens begin with the first. -/
  firstToken_eq : f.firstToken = index
  /-- They end with the second. -/
  endToken_eq : f.endToken = index + 2
  /-- It begins where the first does. -/
  start_eq : f.start = a.start
  /-- It ends where the second does. -/
  stop_eq : b.stop = .ok f.stop

namespace RepetitionRule

variable {r : RepetitionRule} {allowed : List Text} {index i n : Nat} {a b : Token} {tokens rest : List Token} {f : Finding}
  {found : List Finding} {e : Error}

/-! ### Repeats -/

/-- A token has a letter, is in lower case the same word as the one before it, which is none of those that may be
repeated, and stands behind a blank. -/
def Repeats (allowed : List Text) (previous token : Token) : Prop :=
  ∃ v w, previous.text = some v ∧ token.text = some w ∧ (∃ c ∈ w, isLetter c = true) ∧
    w.lower = v.lower ∧ w.lower ∉ allowed ∧ token.spaceBefore = true

/-- The token with an index repeats the one before it. -/
def IsRepeat (allowed : List Text) (tokens : List Token) : Nat → Prop
  | 0 => False
  | i + 1 => ∃ a b, tokens[i]? = some a ∧ tokens[i + 1]? = some b ∧ Repeats allowed a b

theorem isRepeat_cons_cons_one : IsRepeat allowed (a :: b :: rest) 1 ↔ Repeats allowed a b := by
  constructor
  · rintro ⟨a', b', ha, hb, h⟩
    obtain rfl := Option.some.inj ha
    obtain rfl := Option.some.inj hb
    exact h
  · exact fun h => ⟨a, b, rfl, rfl, h⟩

theorem isRepeat_cons (a : Token) : IsRepeat allowed (a :: tokens) (i + 2) ↔ IsRepeat allowed tokens (i + 1) :=
  Iff.rfl

/-- Of two tokens with texts, the second is found to be a repeat iff it is one. -/
theorem isRepeat_eq {v w : Text} (ha : a.text = some v) (hb : b.text = some w) :
    r.isRepeat a b =
      .ok (w.any isLetter && (w.lower == v.lower && !r.allowed.contains w.lower && b.spaceBefore)) := by
  unfold isRepeat Token.lowered
  rw [ha, hb]
  cases hletter : w.any isLetter with
  | true =>
    simp [hletter]
    rfl
  | false => simp [hletter]

/-- Whatever is found is right. -/
theorem eq_true_iff_of_isRepeat {answer : Bool} (h : r.isRepeat a b = .ok answer) :
    answer = true ↔ Repeats r.allowed a b := by
  cases hb : b.text with
  | none =>
    unfold isRepeat Token.lowered at h
    rw [hb] at h
    cases h
  | some w =>
    cases ha : a.text with
    | some v =>
      rw [isRepeat_eq ha hb, Except.ok.injEq] at h
      simp [← h, Repeats, ha, hb, and_assoc]
    | none =>
      -- without a letter in the second, the first is not looked at
      unfold isRepeat Token.lowered at h
      rw [ha, hb] at h
      cases hletter : w.any isLetter with
      | true =>
        simp [hletter] at h
        cases h
      | false =>
        simp [hletter] at h
        cases h
        simp [Repeats, ha]

/-! ### Reports -/

/-- A finding reports the token with an index as a repeat. -/
def IsReported (found : List Finding) (i : Nat) : Prop := ∃ f ∈ found, f.firstToken + 1 = i

/-- What is found in tokens of which the first has an index: pairs of a token and its repeat that share no token,
and no repeat is passed over but one right behind one that is reported. -/
structure IsReport (allowed : List Text) (index : Nat) (tokens : List Token) (found : List Finding) : Prop where
  /-- Each finding reports a token and its repeat. -/
  pair : ∀ f ∈ found, ∃ i a b, tokens[i]? = some a ∧ tokens[i + 1]? = some b ∧ Repeats allowed a b ∧
    f.IsPair (index + i) a b
  /-- They come in order and share no token. -/
  apart : found.Pairwise fun f g => f.endToken ≤ g.firstToken
  /-- A repeat is reported, or the token before it is. -/
  complete : ∀ i, IsRepeat allowed tokens i → IsReported found (index + i) ∨ IsReported found (index + i - 1)

namespace IsReport

/-- Of fewer than two tokens there is nothing to report. -/
theorem nil (h : tokens.length < 2) : IsReport allowed index tokens [] where
  pair := List.forall_mem_nil _
  apart := .nil
  complete i hrepeat := by
    cases i with
    | zero => cases hrepeat
    | succ i =>
      obtain ⟨a, b, -, hb, -⟩ := hrepeat
      have hlt := (List.getElem?_eq_some_iff.mp hb).1
      omega

/-- A pair that is none is passed over by one token. -/
theorem skip (hnot : ¬ Repeats allowed a b) (h : IsReport allowed (index + 1) (b :: rest) found) :
    IsReport allowed index (a :: b :: rest) found where
  pair f hf := by
    obtain ⟨i, c, d, hc, hd, hrepeats, hpair⟩ := h.pair f hf
    rw [show index + 1 + i = index + (i + 1) by omega] at hpair
    exact ⟨i + 1, c, d, hc, hd, hrepeats, hpair⟩
  apart := h.apart
  complete i hrepeat := by
    match i, hrepeat with
    | 1, hrepeat => exact absurd (isRepeat_cons_cons_one.mp hrepeat) hnot
    | i + 2, hrepeat =>
      have hnext := h.complete (i + 1) ((isRepeat_cons a).mp hrepeat)
      rwa [show index + 1 + (i + 1) = index + (i + 2) by omega] at hnext

/-- A pair that is reported is passed over by two tokens. -/
theorem cons (hrepeats : Repeats allowed a b) (hf : f.IsPair index a b)
    (h : IsReport allowed (index + 2) rest found) : IsReport allowed index (a :: b :: rest) (f :: found) where
  pair := by
    refine List.forall_mem_cons.mpr ⟨⟨0, a, b, rfl, rfl, hrepeats, hf⟩, fun g hg => ?_⟩
    obtain ⟨i, c, d, hc, hd, hrepeats, hpair⟩ := h.pair g hg
    rw [show index + 2 + i = index + (i + 2) by omega] at hpair
    exact ⟨i + 2, c, d, hc, hd, hrepeats, hpair⟩
  apart := by
    refine List.pairwise_cons.mpr ⟨fun g hg => ?_, h.apart⟩
    obtain ⟨i, c, d, -, -, -, hpair⟩ := h.pair g hg
    have hend := hf.endToken_eq
    have hfirst := hpair.firstToken_eq
    omega
  complete i hrepeat := by
    have hreported : IsReported (f :: found) (index + 1) :=
      ⟨f, List.mem_cons_self, by rw [hf.firstToken_eq]; rfl⟩
    have hrest : ∀ {i}, IsReported found i → IsReported (f :: found) i :=
      fun ⟨g, hg, hi⟩ => ⟨g, List.mem_cons_of_mem f hg, hi⟩
    -- the second token is reported, and the third, if it is a repeat, comes behind it
    match i, hrepeat with
    | 1, _ => exact .inl hreported
    | 2, _ => exact .inr hreported
    | i + 3, hrepeat =>
      have hnext := h.complete (i + 1) hrepeat
      rw [show index + 2 + (i + 1) = index + (i + 3) by omega] at hnext
      exact hnext.imp hrest hrest

end IsReport

/-- The finding on a pair reports its two tokens. -/
theorem isPair_of_report (h : report index a b = .ok f) : f.IsPair index a b := by
  obtain ⟨stop, hstop, rfl⟩ := map_ok_iff.mp h
  exact ⟨rfl, rfl, rfl, rfl, hstop⟩

/-- What the scan finds is such a report. -/
theorem findingsFrom_isReport (h : r.findingsFrom index tokens = .ok found) :
    IsReport r.allowed index tokens found := by
  fun_induction findingsFrom r index tokens generalizing found with
  | case1 index a b rest ihRest ihTail =>
    obtain ⟨answer, hanswer, h⟩ := bind_ok_iff.mp h
    have hiff := eq_true_iff_of_isRepeat hanswer
    split at h
    · rename_i htrue
      obtain ⟨f, hf, h⟩ := bind_ok_iff.mp h
      obtain ⟨others, hothers, rfl⟩ := map_ok_iff.mp h
      exact .cons (hiff.mp htrue) (isPair_of_report hf) (ihRest hothers)
    · rename_i hfalse
      exact .skip (mt hiff.mpr hfalse) (ihTail h)
  | case2 tokens index hshort =>
    obtain rfl := Except.ok.inj h
    refine .nil ?_
    match tokens with
    | [] => exact Nat.zero_lt_two
    | [_] => exact Nat.one_lt_two
    | a :: b :: rest => exact absurd rfl (hshort a b rest)

theorem text_eq_none_of_isRepeat_error (h : r.isRepeat a b = .error e) :
    a.text = none ∨ b.text = none := by
  cases ha : a.text with
  | none => exact .inl rfl
  | some v =>
    cases hb : b.text with
    | none => exact .inr rfl
    | some w =>
      rw [isRepeat_eq ha hb] at h
      cases h

theorem text_eq_none_of_report_error (h : report index a b = .error e) : b.text = none := by
  cases hb : b.text with
  | none => rfl
  | some w =>
    unfold report Token.stop at h
    rw [hb] at h
    cases h

/-- The scan fails only where a token has no text. -/
theorem exists_of_findingsFrom_error (h : r.findingsFrom index tokens = .error e) :
    ∃ k ∈ tokens, k.text = none := by
  fun_induction findingsFrom r index tokens with
  | case1 index a b rest ihRest ihTail =>
    rcases bind_error_iff.mp h with h | ⟨answer, -, h⟩
    · rcases text_eq_none_of_isRepeat_error h with ha | hb
      · exact ⟨a, by simp, ha⟩
      · exact ⟨b, by simp, hb⟩
    · split at h
      · rcases bind_error_iff.mp h with h | ⟨f, -, h⟩
        · exact ⟨b, by simp, text_eq_none_of_report_error h⟩
        · rcases bind_error_iff.mp h with h | ⟨others, -, h⟩
          · obtain ⟨k, hk, hnone⟩ := ihRest h
            exact ⟨k, by simp [hk], hnone⟩
          · cases h
      · obtain ⟨k, hk, hnone⟩ := ihTail h
        exact ⟨k, List.mem_cons_of_mem a hk, hnone⟩
  | case2 => cases h

/-! ### Rows of repeats -/

/-- Tokens from an index on, each of which but the first repeats the one before it, and which go no further on
either side. -/
structure IsRow (allowed : List Text) (tokens : List Token) (i n : Nat) : Prop where
  /-- They are there. -/
  le_length : i + n ≤ tokens.length
  /-- Each but the first is a repeat. -/
  linked : ∀ j, i < j → j < i + n → IsRepeat allowed tokens j
  /-- The first is none. -/
  first : ¬ IsRepeat allowed tokens i
  /-- The token behind them is none. -/
  last : ¬ IsRepeat allowed tokens (i + n)

/-- Of findings that share no token there is one more of one kind than of another, if one of them is of the first
kind alone and those on either side are of both kinds or of neither. -/
theorem countP_eq_succ {p q : Finding → Bool} (hapart : found.Pairwise fun f g => f.endToken ≤ g.firstToken)
    (hf : f ∈ found) (hp : p f = false) (hq : q f = true)
    (hothers : ∀ g ∈ found, g.endToken ≤ f.firstToken ∨ f.endToken ≤ g.firstToken → (q g = true ↔ p g = true)) :
    found.countP q = found.countP p + 1 := by
  obtain ⟨front, back, rfl⟩ := List.append_of_mem hf
  obtain ⟨-, hback, hfront⟩ := List.pairwise_append.mp hapart
  have hfrontCount : front.countP q = front.countP p :=
    List.countP_congr fun g hg =>
      hothers g (List.mem_append_left _ hg) (.inl (hfront g hg f List.mem_cons_self))
  have hbackCount : back.countP q = back.countP p :=
    List.countP_congr fun g hg =>
      hothers g (by simp [hg]) (.inr (List.rel_of_pairwise_cons hback hg))
  rw [List.countP_append, List.countP_append, List.countP_cons_of_pos hq, List.countP_cons_of_neg (by simp [hp]),
    hfrontCount, hbackCount, Nat.add_assoc]

namespace IsReport

/-- A finding reports two tokens, of which the second is a repeat. -/
theorem exists_isRepeat (h : IsReport allowed 0 tokens found) (hf : f ∈ found) :
    ∃ k : Nat, f.firstToken = k ∧ f.endToken = k + 2 ∧ IsRepeat allowed tokens (k + 1) := by
  obtain ⟨k, a, b, ha, hb, hrepeats, hpair⟩ := h.pair f hf
  rw [Nat.zero_add] at hpair
  exact ⟨k, hpair.firstToken_eq, hpair.endToken_eq, a, b, ha, hb, hrepeats⟩

/-- A finding with a token of a row lies in the row. -/
theorem touches_iff (h : IsReport allowed 0 tokens found) (hrow : IsRow allowed tokens i n) (hf : f ∈ found) :
    f.firstToken < i + n ∧ i < f.endToken ↔ i ≤ f.firstToken ∧ f.endToken ≤ i + n := by
  obtain ⟨k, hfirst, hend, hrepeat⟩ := h.exists_isRepeat hf
  have hlow : k + 1 ≠ i := fun heq => hrow.first (heq ▸ hrepeat)
  have hhigh : k + 1 ≠ i + n := fun heq => hrow.last (heq ▸ hrepeat)
  omega

/-- Of two neighbouring tokens of a row, one is reported as the repeat of a token of the row. -/
theorem exists_of_row (h : IsReport allowed 0 tokens found) (hrow : IsRow allowed tokens i n) {m : Nat}
    (hm : m + 1 < n) :
    ∃ f ∈ found, i ≤ f.firstToken ∧ i + m < f.endToken ∧ f.endToken ≤ i + m + 2 := by
  -- the later one is a repeat, so it is reported or the other one is, and the first token of the row is not
  have hreported := h.complete (i + m + 1) (hrow.linked (i + m + 1) (by omega) (by omega))
  obtain ⟨f, hf, hlow, hhigh⟩ :
      ∃ f ∈ found, i + m ≤ f.firstToken + 1 ∧ f.firstToken ≤ i + m := by
    rcases hreported with ⟨f, hf, heq⟩ | ⟨f, hf, heq⟩
    · exact ⟨f, hf, by omega, by omega⟩
    · exact ⟨f, hf, by omega, by omega⟩
  obtain ⟨k, hfirst, hend, hrepeat⟩ := h.exists_isRepeat hf
  have hne : k + 1 ≠ i := fun heq => hrow.first (heq ▸ hrepeat)
  exact ⟨f, hf, by omega, by omega, by omega⟩

/-- Of the first tokens of a row, every second one is reported. -/
theorem countP_row (h : IsReport allowed 0 tokens found) (hrow : IsRow allowed tokens i n) :
    ∀ m ≤ n, found.countP (fun f : Finding => i ≤ f.firstToken ∧ f.endToken ≤ i + m) = m / 2
  | 0, _ | 1, _ => by
    -- no pair fits into fewer than two tokens
    refine List.countP_eq_zero.mpr fun f hf => ?_
    obtain ⟨k, hfirst, hend, -⟩ := h.exists_isRepeat hf
    simp only [decide_eq_true_eq]
    omega
  | m + 2, hm => by
    -- the one finding that ends with either of the last two of these tokens
    obtain ⟨f, hf, hfirst, hlow, hhigh⟩ := h.exists_of_row hrow (m := m) (by omega)
    obtain ⟨k, hfirstEq, hendEq, -⟩ := h.exists_isRepeat hf
    rw [countP_eq_succ (p := fun f : Finding => i ≤ f.firstToken ∧ f.endToken ≤ i + m) h.apart hf
      (by simp; omega) (by simp; omega), h.countP_row hrow m (by omega)]
    · omega
    · -- any other finding ends before the last two, or starts behind the one that ends there
      intro g hg hapart
      obtain ⟨l, hgFirst, hgEnd, -⟩ := h.exists_isRepeat hg
      simp only [decide_eq_true_eq]
      omega

/-- In a row of tokens, of which each but the first repeats the one before it, every second one is reported. -/
theorem countP_touches (h : IsReport allowed 0 tokens found) (hrow : IsRow allowed tokens i n) :
    found.countP (fun f : Finding => f.firstToken < i + n ∧ i < f.endToken) = n / 2 := by
  rw [← h.countP_row hrow n (Nat.le_refl n)]
  exact List.countP_congr fun f hf => by simpa using h.touches_iff hrow hf

end IsReport

/-- **Repeated words.**  In a sentence repeats alone are reported, each with the token before it, in pairs that share
no token, and a repeat is passed over only if the one before it is reported.  So in a row of tokens that each repeat
the one before there are half as many findings as tokens.  Only a token without a text makes the rule fail. -/
theorem findings_repeats (allowed : List Text) (s : Sentence) :
    (∃ found, (make allowed).findings s = .ok found ∧ IsReport (allowed.map Text.lower) 0 s.tokens found ∧
      ∀ i n, IsRow (allowed.map Text.lower) s.tokens i n →
        found.countP (fun f : Finding => f.firstToken < i + n ∧ i < f.endToken) = n / 2) ∨
    (∃ e, (make allowed).findings s = .error e) ∧ ∃ k ∈ s.tokens, k.text = none := by
  cases hfound : (make allowed).findings s with
  | error e => exact .inr ⟨⟨e, rfl⟩, exists_of_findingsFrom_error hfound⟩
  | ok found =>
    have hreport : IsReport (allowed.map Text.lower) 0 s.tokens found := findingsFrom_isReport hfound
    exact .inl ⟨found, rfl, hreport, fun i n hrow => hreport.countP_touches hrow⟩

end RepetitionRule

end Copyedit
