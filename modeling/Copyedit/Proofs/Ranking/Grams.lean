import Copyedit.Proofs.Outcome
import Copyedit.Proofs.Sequence
import Copyedit.Ranking.Grams
import Mathlib.Algebra.BigOperators.Group.List.Basic
import Mathlib.Algebra.Order.BigOperators.Group.List
import Mathlib.Algebra.Order.Field.Rat
import Mathlib.Algebra.Order.Ring.Cast
import Mathlib.Tactic.NormNum
import Mathlib.Tactic.Positivity

/-!
# Counts and likelihoods

A gram occurs in a sequence of words once for each place where it starts (`occurrences`), and so often it
stands among the grams of its length (`count_gramsOf`).  What is counted in sentences is therefore how often
a gram occurs in them (`countOf_ofSentences`).  Without its last word a gram starts wherever it does, without
its first it starts at the place behind (`occurrences_le_dropLast`, `occurrences_le_tail`): no share is above
the whole.  By induction on the gram that is shortened, likelihoods are positive and at most one
(`share_bounds`, `ofSentences_likelihood`).
-/

namespace Copyedit.Ranking

/-! ### Occurrences -/

/-- How often a gram occurs as consecutive words: the number of places where it starts. -/
def occurrences (gram : Gram) (words : List Text) : Nat :=
  words.tails.countP fun rest => gram <+: rest

/-- How often a gram occurs in sentences, put into lower case. -/
def occurrencesIn (sentences : List (List Text)) (gram : Gram) : Nat :=
  (sentences.map fun s => occurrences gram (s.map Text.lower)).sum

section Occurrences

variable {gram : Gram} {words : List Text}

theorem occurrences_nil (hne : gram ≠ []) : occurrences gram [] = 0 := by
  simp [occurrences, hne]

/-- An occurrence starts at the first word or at a later one. -/
theorem occurrences_cons (gram : Gram) (w : Text) (words : List Text) :
    occurrences gram (w :: words) = occurrences gram words + if gram <+: w :: words then 1 else 0 := by
  simp [occurrences, List.countP_cons]

/-- The grams of a length have it. -/
theorem length_of_mem_gramsOf {n : Nat} (h : gram ∈ gramsOf n words) : gram.length = n := by
  obtain ⟨i, hi, rfl⟩ := List.mem_map.mp h
  rw [List.mem_range] at hi
  rw [List.length_take, List.length_drop]
  omega

theorem gramsOf_of_length_lt {n : Nat} (h : words.length < n) : gramsOf n words = [] := by
  rw [gramsOf, show words.length + 1 - n = 0 by omega]
  rfl

theorem gramsOf_cons {n : Nat} (w : Text) (h : n ≤ words.length + 1) :
    gramsOf n (w :: words) = (w :: words).take n :: gramsOf n words := by
  have hlength : (w :: words).length + 1 - n = (words.length + 1 - n) + 1 := by
    rw [List.length_cons]
    omega
  rw [gramsOf, hlength, List.range_succ_eq_map, List.map_cons, List.map_map]
  rfl

/-- Among the grams of its length, a gram stands once for each occurrence. -/
theorem count_gramsOf (hne : gram ≠ []) (words : List Text) :
    (gramsOf gram.length words).count gram = occurrences gram words := by
  induction words with
  | nil =>
    have hpos := List.length_pos_iff.mpr hne
    rw [gramsOf_of_length_lt hpos, occurrences_nil hne, List.count_nil]
  | cons w words ih =>
    rw [occurrences_cons, ← ih]
    by_cases hlength : gram.length ≤ words.length + 1
    · rw [gramsOf_cons w hlength, List.count_cons]
      congr 1
      exact if_congr (by rw [beq_iff_eq, List.prefix_iff_eq_take, eq_comm]) rfl rfl
    · -- a gram that is longer than the words does not start anywhere
      have hnot : ¬ gram <+: w :: words := by
        intro h
        have hle := h.length_le
        rw [List.length_cons] at hle
        omega
      rw [gramsOf_of_length_lt (by rw [List.length_cons]; omega), gramsOf_of_length_lt (by omega), if_neg hnot,
        Nat.add_zero]

theorem count_gramsOf_of_length_ne {n : Nat} (h : gram.length ≠ n) (words : List Text) :
    (gramsOf n words).count gram = 0 :=
  List.count_eq_zero.mpr fun hmem => h (length_of_mem_gramsOf hmem)

/-- A gram that is longer than the words does not occur. -/
theorem occurrences_of_length_lt (hne : gram ≠ []) (h : words.length < gram.length) :
    occurrences gram words = 0 := by
  rw [← count_gramsOf hne, gramsOf_of_length_lt h, List.count_nil]

/-- Without its last word, a gram occurs wherever it does. -/
theorem occurrences_le_dropLast (gram : Gram) (words : List Text) :
    occurrences gram words ≤ occurrences gram.dropLast words := by
  refine List.countP_mono_left fun rest _ h => ?_
  rw [decide_eq_true_eq] at h ⊢
  exact (List.dropLast_prefix gram).trans h

theorem occurrences_le_cons (w : Text) : occurrences gram words ≤ occurrences gram (w :: words) := by
  rw [occurrences_cons]
  exact Nat.le_add_right _ _

/-- Without its first word, it occurs behind each place where it does. -/
theorem occurrences_cons_le_tail (w : Text) (gram : Gram) (words : List Text) :
    occurrences (w :: gram) words ≤ occurrences gram words.tail := by
  induction words with
  | nil =>
    rw [occurrences_nil (List.cons_ne_nil w gram)]
    exact Nat.zero_le _
  | cons v words ih =>
    -- an occurrence at the first word goes with one at the second
    have hfirst : (if w :: gram <+: v :: words then 1 else 0) ≤ if gram <+: words then 1 else 0 := by
      by_cases h : w :: gram <+: v :: words
      · rw [if_pos h, if_pos (List.cons_prefix_cons.mp h).2]
      · rw [if_neg h]
        exact Nat.zero_le _
    rw [occurrences_cons (w :: gram) v words, List.tail_cons]
    cases words with
    | nil =>
      rw [occurrences_nil (List.cons_ne_nil w gram), Nat.zero_add]
      refine hfirst.trans (le_of_eq ?_)
      simp [occurrences]
    | cons u words =>
      rw [occurrences_cons gram u words]
      exact Nat.add_le_add ih hfirst

theorem occurrences_le_tail (gram : Gram) (words : List Text) :
    occurrences gram words ≤ occurrences gram.tail words := by
  cases gram with
  | nil => exact le_refl _
  | cons w gram =>
    refine (occurrences_cons_le_tail w gram words).trans ?_
    cases words with
    | nil => exact le_refl _
    | cons v words => exact occurrences_le_cons v

end Occurrences

/-! ### Counting -/

theorem lookup_addCount (counts : List (Gram × Int)) (gram gram' : Gram) (n : Int) :
    ((addCount counts gram n).lookup gram').getD 0 =
      (counts.lookup gram').getD 0 + if gram' = gram then n else 0 := by
  rw [addCount, lookup_putKey]
  split
  · rename_i hsame
    rw [hsame, Option.getD_some]
  · rw [Int.add_zero]

/-- Counting grams one by one adds to each count as often as the gram comes. -/
theorem lookup_foldl_addCount (grams : List Gram) (counts : List (Gram × Int)) (gram : Gram) :
    ((grams.foldl (fun cs g => addCount cs g 1) counts).lookup gram).getD 0 =
      (counts.lookup gram).getD 0 + grams.count gram := by
  induction grams generalizing counts with
  | nil => simp
  | cons g grams ih =>
    have hcount : ((g :: grams).count gram : Int) = grams.count gram + if gram = g then 1 else 0 := by
      rw [List.count_cons]
      by_cases hsame : gram = g
      · simp [hsame]
      · simp [hsame, Ne.symm hsame]
    rw [List.foldl_cons, ih, lookup_addCount, hcount]
    omega

/-- No gram is counted in two places. -/
theorem nodup_foldl_addCount (grams : List Gram) {counts : List (Gram × Int)}
    (h : (counts.map (·.1)).Nodup) :
    ((grams.foldl (fun cs g => addCount cs g 1) counts).map (·.1)).Nodup := by
  induction grams generalizing counts with
  | nil => exact h
  | cons g grams ih => exact ih (nodup_keys_putKey h _ _)

namespace GramCounts

variable {gram : Gram}

/-- Of all grams up to a length, a gram that is not longer stands there once for each occurrence. -/
theorem count_flatMap_gramsOf (hne : gram ≠ []) (words : List Text) (k : Nat) :
    ((List.range' 1 k).flatMap fun n => gramsOf n words).count gram =
      if gram.length ≤ k then occurrences gram words else 0 := by
  have hpos := List.length_pos_iff.mpr hne
  induction k with
  | zero =>
    rw [if_neg (by omega)]
    rfl
  | succ k ih =>
    rw [List.range'_1_concat, List.flatMap_append, List.count_append, ih, List.flatMap_singleton]
    by_cases hlast : gram.length = 1 + k
    · -- the last length is that of the gram
      rw [← hlast, count_gramsOf hne, if_neg (by omega), if_pos (by omega), Nat.zero_add]
    · rw [count_gramsOf_of_length_ne hlast, Nat.add_zero]
      exact if_congr (by omega) rfl rfl

theorem count_gramsUpTo (order : Int) (sentence : List Text) (gram : Gram) :
    (gramsUpTo order sentence).count gram =
      if 1 ≤ gram.length ∧ gram.length ≤ order then occurrences gram (sentence.map Text.lower) else 0 := by
  by_cases hne : gram = []
  · -- the empty gram has none of the lengths
    have hnot : gram ∉ gramsUpTo order sentence := by
      intro hmem
      obtain ⟨n, hn, hgram⟩ := List.mem_flatMap.mp hmem
      have hlength := length_of_mem_gramsOf hgram
      have hfirst := (List.mem_range'_1.mp hn).1
      rw [hne, List.length_nil] at hlength
      omega
    rw [List.count_eq_zero.mpr hnot, if_neg (by simp [hne])]
  · have hpos := List.length_pos_iff.mpr hne
    dsimp only [gramsUpTo]
    rw [count_flatMap_gramsOf hne]
    by_cases hlong : (sentence.map Text.lower).length < gram.length
    · rw [occurrences_of_length_lt hne hlong, ite_self, ite_self]
    · exact if_congr (by omega) rfl rfl

theorem count_flatMap_gramsUpTo (sentences : List (List Text)) (order : Int) (gram : Gram) :
    (sentences.flatMap (gramsUpTo order)).count gram =
      if 1 ≤ gram.length ∧ gram.length ≤ order then occurrencesIn sentences gram else 0 := by
  induction sentences with
  | nil => exact (ite_self 0).symm
  | cons s sentences ih =>
    have hsum : occurrencesIn (s :: sentences) gram =
        occurrences gram (s.map Text.lower) + occurrencesIn sentences gram := rfl
    rw [List.flatMap_cons, List.count_append, count_gramsUpTo, ih, hsum]
    split <;> rfl

section Sentences

variable {sentences : List (List Text)} {order : Int} {g : GramCounts}
  (h : ofSentences sentences order = .ok g)

include h

theorem counts_of_ofSentences : g.order = order ∧
    g.counts = (sentences.flatMap (gramsUpTo order)).foldl (fun cs g => addCount cs g 1) [] := by
  unfold ofSentences ofCounts at h
  split at h
  · obtain rfl := Except.ok.inj h
    exact ⟨rfl, rfl⟩
  · cases h

/-- A count is the number of occurrences, for grams of the lengths that are counted. -/
theorem countOf_ofSentences (gram : Gram) : g.countOf gram =
    if 1 ≤ gram.length ∧ gram.length ≤ order then (occurrencesIn sentences gram : Int) else 0 := by
  rw [countOf, (counts_of_ofSentences h).2, lookup_foldl_addCount, count_flatMap_gramsUpTo, List.lookup_nil,
    Option.getD_none, Int.zero_add]
  split <;> rfl

theorem countOf_nonneg (gram : Gram) : 0 ≤ g.countOf gram := by
  rw [countOf_ofSentences h]
  split
  · exact Int.natCast_nonneg _
  · exact le_refl _

/-- No gram is in two places, so that what stands with it is its count. -/
theorem eq_countOf_of_mem {e : Gram × Int} (he : e ∈ g.counts) : e.2 = g.countOf e.1 := by
  have hnodup : (g.counts.map (·.1)).Nodup := by
    rw [(counts_of_ofSentences h).2]
    exact nodup_foldl_addCount _ List.nodup_nil
  rw [countOf, lookup_of_mem_of_nodup hnodup he, Option.getD_some]

/-- A shorter gram that occurs wherever a gram does counts at least as often. -/
theorem countOf_le_countOf {gram gram' : Gram} (hne : gram' ≠ []) (hle : gram'.length ≤ gram.length)
    (hoccurs : ∀ words, occurrences gram words ≤ occurrences gram' words) : g.countOf gram ≤ g.countOf gram' := by
  have hpos := List.length_pos_iff.mpr hne
  have hsum : occurrencesIn sentences gram ≤ occurrencesIn sentences gram' :=
    List.sum_le_sum fun s _ => hoccurs (s.map Text.lower)
  rw [countOf_ofSentences h]
  split
  · rw [countOf_ofSentences h, if_pos (by omega)]
    exact Int.ofNat_le.mpr hsum
  · exact countOf_nonneg h gram'

theorem countOf_le_dropLast {gram : Gram} (hlength : 2 ≤ gram.length) :
    g.countOf gram ≤ g.countOf gram.dropLast := by
  have hlength' : gram.dropLast.length = gram.length - 1 := List.length_dropLast
  refine countOf_le_countOf h (List.length_pos_iff.mp (by omega)) (by omega) fun words => ?_
  exact occurrences_le_dropLast gram words

theorem countOf_le_tail {gram : Gram} (hlength : 2 ≤ gram.length) : g.countOf gram ≤ g.countOf gram.tail := by
  have hlength' : gram.tail.length = gram.length - 1 := List.length_tail
  refine countOf_le_countOf h (List.length_pos_iff.mp (by omega)) (by omega) fun words => ?_
  exact occurrences_le_tail gram words

/-- A single word counts at most as often as all of them. -/
theorem countOf_single_le_total (w : Text) : g.countOf [w] ≤ g.total := by
  have hnonneg : ∀ n ∈ g.singles.map (·.2), 0 ≤ n := by
    intro n hn
    obtain ⟨e, he, rfl⟩ := List.mem_map.mp hn
    rw [eq_countOf_of_mem h (List.mem_of_mem_filter he)]
    exact countOf_nonneg h e.1
  show g.countOf [w] ≤ (g.singles.map (·.2)).sum
  cases hlookup : g.counts.lookup [w] with
  | none =>
    rw [countOf, hlookup]
    exact List.sum_nonneg hnonneg
  | some n =>
    have hmem : ([w], n) ∈ g.singles := List.mem_filter.mpr ⟨mem_of_lookup_eq_some hlookup, rfl⟩
    rw [countOf, hlookup]
    exact List.single_le_sum hnonneg n (List.mem_map_of_mem hmem)

/-! ### Likelihoods -/

/-- The share of a gram is a fraction between nothing and the whole. -/
theorem share_bounds (shortened : Nat) {gram : Gram} (hne : gram ≠ []) :
    0 < (g.share shortened gram).num ∧ (g.share shortened gram).num ≤ (g.share shortened gram).den := by
  induction gram generalizing shortened with
  | nil => exact absurd rfl hne
  | cons w gram ih =>
    cases gram with
    | nil =>
      have hcount := countOf_nonneg h [w]
      have htotal := countOf_single_le_total h w
      show 0 < g.countOf [w] + 1 ∧ g.countOf [w] + 1 ≤ g.total + g.vocabulary + 1
      omega
    | cons v rest =>
      unfold share
      dsimp only
      split
      · rename_i hcounted
        exact ⟨hcounted.1, countOf_le_dropLast h (by simp)⟩
      · exact ih (shortened + 1) (List.cons_ne_nil v rest)

end Sentences

/-- A likelihood in exact numbers, the factor of shortening being two fifths. -/
def Share.value (s : Share) : ℚ := (2 / 5) ^ s.shortened * (s.num / s.den)

theorem Share.value_bounds {s : Share} (hpos : 0 < s.num) (hle : s.num ≤ s.den) : 0 < s.value ∧ s.value ≤ 1 := by
  have hnum : (0 : ℚ) < s.num := Int.cast_pos.mpr hpos
  have hden : (0 : ℚ) < s.den := Int.cast_pos.mpr (hpos.trans_le hle)
  have hfraction : (s.num : ℚ) / s.den ≤ 1 := (div_le_one hden).mpr (Int.cast_le.mpr hle)
  have hpenalty : (2 / 5 : ℚ) ^ s.shortened ≤ 1 := pow_le_one₀ (by norm_num) (by norm_num)
  constructor
  · unfold value
    positivity
  · exact mul_le_one₀ hpenalty (by positivity) hfraction

theorem ne_nil_of_mem_endingGrams {g : GramCounts} {words : List Text} (h : gram ∈ g.endingGrams words) :
    gram ≠ [] := by
  obtain ⟨i, hi, rfl⟩ := List.mem_map.mp h
  have horder := g.order_pos
  rw [List.mem_range] at hi
  rw [ne_eq, ← List.length_eq_zero_iff]
  dsimp only
  rw [List.length_take, List.length_drop]
  omega

theorem finite_ne_divisionByZero (o : Overflow) (x : Float) : finite o x ≠ .error .divisionByZero := by
  unfold finite
  split <;> nofun

theorem logarithm_ne_divisionByZero (x : Float) : logarithm x ≠ .error .divisionByZero := by
  unfold logarithm
  split <;> nofun

/-- Rounding a fraction divides by its denominator alone. -/
theorem Share.toFloat_ne_divisionByZero {s : Share} (h : 0 < s.den) : s.toFloat ≠ .error .divisionByZero := by
  intro hfails
  unfold toFloat at hfails
  split at hfails
  · rw [if_neg (by omega)] at hfails
    rcases bind_error_iff.mp hfails with hfails | ⟨_, _, hfails⟩
    · exact finite_ne_divisionByZero _ _ hfails
    · exact pure_ne_error hfails
  · rcases bind_error_iff.mp hfails with hfails | ⟨_, _, hfails⟩
    · exact finite_ne_divisionByZero _ _ hfails
    · rcases bind_error_iff.mp hfails with hfails | ⟨_, _, hfails⟩
      · exact finite_ne_divisionByZero _ _ hfails
      · exact pure_ne_error hfails

/-- A score divides by the denominators of the shares that go into it. -/
theorem score_ne_divisionByZero {g : GramCounts} (h : ∀ gram : Gram, gram ≠ [] → 0 < (g.share 0 gram).den)
    (words : List Text) : g.score words ≠ .error .divisionByZero := by
  intro hfails
  obtain ⟨gram, hgram, total, hfails⟩ := exists_of_foldlM_error hfails
  have hden := h gram (ne_nil_of_mem_endingGrams hgram)
  rcases bind_error_iff.mp hfails with hfails | ⟨x, -, hfails⟩
  · exact Share.toFloat_ne_divisionByZero hden hfails
  · rcases bind_error_iff.mp hfails with hfails | ⟨_, -, hfails⟩
    · exact logarithm_ne_divisionByZero x hfails
    · exact pure_ne_error hfails

/-- **Counts and likelihoods.**  What is counted in sentences up to a length is how often each gram of these
lengths occurs in them, in lower case; a gram counts at most as often as without its last word and as
without its first.  So the likelihood of any gram is a positive number up to one: scores divide by nothing
that is zero, and take the logarithm of nothing that is not positive. -/
theorem ofSentences_likelihood (sentences : List (List Text)) {order : Int} (horder : 1 ≤ order) :
    ∃ g, ofSentences sentences order = .ok g ∧
      (∀ gram : Gram, g.countOf gram =
        if 1 ≤ gram.length ∧ gram.length ≤ order then (occurrencesIn sentences gram : Int) else 0) ∧
      (∀ gram : Gram, g.count gram = g.countOf (gram.map Text.lower)) ∧
      (∀ gram : Gram, 2 ≤ gram.length →
        g.countOf gram ≤ g.countOf gram.dropLast ∧ g.countOf gram ≤ g.countOf gram.tail) ∧
      (∀ gram : Gram, gram ≠ [] → 0 < (g.share 0 gram).den ∧
        0 < (g.share 0 gram).value ∧ (g.share 0 gram).value ≤ 1) ∧
      ∀ words, g.score words ≠ .error .divisionByZero ∧
        ∀ gram ∈ g.endingGrams (words.map Text.lower), 0 < (g.share 0 gram).value := by
  obtain ⟨g, hg⟩ : ∃ g, ofSentences sentences order = .ok g := ⟨_, dif_pos horder⟩
  have hden : ∀ gram : Gram, gram ≠ [] → 0 < (g.share 0 gram).den := by
    intro gram hne
    obtain ⟨hpos, hle⟩ := share_bounds hg 0 hne
    exact hpos.trans_le hle
  have hvalue : ∀ gram : Gram, gram ≠ [] → 0 < (g.share 0 gram).value ∧ (g.share 0 gram).value ≤ 1 := by
    intro gram hne
    obtain ⟨hpos, hle⟩ := share_bounds hg 0 hne
    exact Share.value_bounds hpos hle
  refine ⟨g, hg, countOf_ofSentences hg, fun _ => rfl, fun gram hlength => ?_, fun gram hne => ?_,
    fun words => ?_⟩
  · exact ⟨countOf_le_dropLast hg hlength, countOf_le_tail hg hlength⟩
  · exact ⟨hden gram hne, hvalue gram hne⟩
  · exact ⟨score_ne_divisionByZero hden words,
      fun gram hgram => (hvalue gram (ne_nil_of_mem_endingGrams hgram)).1⟩

/-- In "The cat sat" and "the Cat", "the cat" occurs twice; "no cat" has a likelihood although it does not. -/
theorem ofSentences_likelihood_cat :
    ∃ g, ofSentences [["The".toList, "cat".toList, "sat".toList], ["the".toList, "Cat".toList]] 2 = .ok g ∧
      g.countOf ["the".toList, "cat".toList] = 2 ∧
      0 < (g.share 0 ["no".toList, "cat".toList]).value := by
  obtain ⟨g, hg, hcount, -, -, hvalue, -⟩ :=
    ofSentences_likelihood [["The".toList, "cat".toList, "sat".toList], ["the".toList, "Cat".toList]]
      (show (1 : Int) ≤ 2 by decide)
  refine ⟨g, hg, (hcount _).trans (by decide +kernel), ?_⟩
  exact (hvalue _ (List.cons_ne_nil _ _)).2.1

end GramCounts

end Copyedit.Ranking
