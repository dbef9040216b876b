import Copyedit.Proofs.Spelling.Speller

/-!
# Raising the number of edits

A speller over a word list that may go further suggests what it suggested before, at the same distances and
in the same order, and then texts that are farther away (`exists_candidates_eq_append`,
`candidates_withBound`).

What is found at a lesser bound is what is found at the greater one and lies within the lesser
(`found_withBound`): words that are looked up are listed by their distance (`WordList.lookup_filter`), and
a split counts as one edit, which every bound allows.  Leaving out what is farther away commutes with
sorting, and of equal corrections the nearest one is kept either way.
-/

namespace Copyedit.Spelling

theorem Trie.Precedes.asymm {listing : List Text} {word v w : Text} (h : Precedes listing word v w) :
    ¬ Precedes listing word w v := by
  unfold Precedes at *
  omega

/-- Looking up within a bound finds what looking up within a greater one finds there. -/
theorem WordList.lookup_filter (listed : List Entry) (convertsCase : Bool) (name : String)
    (word : Text) {bound bound' : Int} (h : bound ≤ bound') :
    (ofEntries listed convertsCase name).lookup word bound =
      ((ofEntries listed convertsCase name).lookup word bound').filter
        fun w => Spelling.distance word w ≤ bound := by
  have hmem : ∀ w, w ∈ (ofEntries listed convertsCase name).lookup word bound ↔
      w ∈ ((ofEntries listed convertsCase name).lookup word bound').filter
        fun w => Spelling.distance word w ≤ bound := by
    intro w
    rw [List.mem_filter, mem_lookup_iff, mem_lookup_iff, decide_eq_true_eq, distance_eq, and_assoc]
    refine and_congr_right fun _ => ?_
    omega
  have hnodup := nodup_lookup listed convertsCase name word
  -- the same words in the same order
  refine List.Perm.eq_of_pairwise (fun v w _ _ hvw hwv => absurd hwv hvw.asymm)
    (pairwise_lookup listed convertsCase name word bound)
    ((pairwise_lookup listed convertsCase name word bound').filter _) ?_
  exact (List.perm_ext_iff_of_nodup (hnodup bound) ((hnodup bound').filter _)).mpr hmem

namespace Speller

variable {S : Type} {s : Speller} {word : Text} {n : Int} {hn : 0 < n}

/-- The speller with another greatest number of edits. -/
def withBound (s : Speller) (n : Int) (hn : 0 < n) : Speller :=
  { s with maxDistance := n, maxDistance_pos := hn }

section WordList

variable {listed : List Entry} {convertsCase : Bool} {name : String}
  (hs : s.dictionary.listing = .words (.ofEntries listed convertsCase name)) (hle : n ≤ s.maxDistance)

include hs hle

/-- What is found within a bound is what is found within a greater one and lies there. -/
theorem found_withBound :
    (s.withBound n hn).found word = (s.found word).filter fun e => (e.1 : Int) ≤ n := by
  have hlookup : ∀ q, s.dictionary.lookup q n =
      (s.dictionary.lookup q s.maxDistance).filter fun w => Spelling.distance q w ≤ n := by
    intro q
    simp only [Dictionary.lookup, hs]
    exact WordList.lookup_filter listed convertsCase name q hle
  have hsplits : ((s.runOnSplits word).map fun w => (splitDistance, w)).filter
      (fun e => (e.1 : Int) ≤ n) = (s.runOnSplits word).map fun w => (splitDistance, w) := by
    refine List.filter_eq_self.mpr (List.forall_mem_map.mpr fun w _ => decide_eq_true ?_)
    have hone : splitDistance = 1 := rfl
    omega
  unfold found
  rw [List.filter_append, List.filter_flatMap]
  congr 1
  · refine List.flatMap_congr fun q _ => ?_
    rw [List.filter_map]
    exact congrArg (List.map _) (hlookup q)
  · change (if s.splitsRunOns then (s.runOnSplits word).map fun w => (splitDistance, w) else []) = _
    split
    · exact hsplits.symm
    · rfl

theorem recased_withBound :
    (s.withBound n hn).recased S word = (s.recased S word).filter fun c => c.distance ≤ n := by
  unfold recased
  rw [found_withBound hs hle, mergeSort_filter_key, List.filter_map]
  rfl

/-- The candidates within a greater bound are those within the lesser one and then some beyond it. -/
theorem exists_candidates_eq_append (S : Type) (word : Text) (hn : 0 < n) :
    ∃ farther, s.candidates S word = (s.withBound n hn).candidates S word ++ farther ∧
      (∀ c ∈ (s.withBound n hn).candidates S word, c.distance ≤ n) ∧
      ∀ c ∈ farther, n < c.distance := by
  cases h : s.isMisspelled word with
  | false =>
    refine ⟨[], ?_, ?_, List.forall_mem_nil _⟩
    · rw [candidates_of_not_isMisspelled h, candidates_of_not_isMisspelled (s := s.withBound n hn) h,
        List.append_nil]
    · rw [candidates_of_not_isMisspelled (s := s.withBound n hn) h]
      exact List.forall_mem_nil _
  | true =>
    have hsorted : (s.recased S word).Pairwise
        fun a b => decide (b.distance ≤ n) = true → decide (a.distance ≤ n) = true :=
      (pairwise_recased S s word).imp fun hab => by simpa using hab.trans
    obtain ⟨farther, hfarther, hsub⟩ := distinctFrom_append Candidate.correction [word]
      ((s.recased S word).filter fun c => c.distance ≤ n)
      ((s.recased S word).filter fun c => !decide (c.distance ≤ n))
    rw [filter_append_filter_not hsorted, ← recased_withBound hs hle] at hfarther
    refine ⟨farther, ?_, fun c hc => ?_, fun c hc => ?_⟩
    · rw [candidates_of_isMisspelled h, hfarther,
        candidates_of_isMisspelled (s := s.withBound n hn) h]
    · have hrecased := candidates_sublist.subset hc
      rw [recased_withBound hs hle] at hrecased
      simpa using (List.mem_filter.mp hrecased).2
    · simpa using (List.mem_filter.mp (hsub.subset hc)).2

/-- **Raising the number of edits.**  The candidates within a number of edits are those of the candidates
within a greater one that are no farther away, and stand at the front there. -/
theorem candidates_withBound :
    (s.withBound n hn).candidates S word <+: s.candidates S word ∧
      (s.withBound n hn).candidates S word =
        (s.candidates S word).filter fun c => c.distance ≤ n := by
  obtain ⟨farther, happend, hnear, hfar⟩ :=
    exists_candidates_eq_append hs hle S word hn
  have hall : ((s.withBound n hn).candidates S word).filter (fun c => c.distance ≤ n) =
      (s.withBound n hn).candidates S word :=
    List.filter_eq_self.mpr fun c hc => decide_eq_true (hnear c hc)
  have hnone : farther.filter (fun c => c.distance ≤ n) = [] := by
    refine List.filter_eq_nil_iff.mpr fun c hc => ?_
    have hbeyond := hfar c hc
    simpa using hbeyond
  constructor
  · exact ⟨farther, happend.symm⟩
  · rw [happend, List.filter_append, hall, hnone, List.append_nil]

end WordList

/-! ### A short list -/

section Examples

/-- A list of "cost", "cast" and "Cart". -/
def costCastCart : Dictionary :=
  ⟨0, .words (.ofEntries [⟨"cost".toList, []⟩, ⟨"cast".toList, []⟩, ⟨"Cart".toList, []⟩])⟩

/-- An English speller over the list that tries two edits. -/
def overCostCastCart : Speller := ⟨costCastCart, 2, by decide, .english, true⟩

/-- The speller that tries one edit. -/
def closeOverCostCastCart : Speller := overCostCastCart.withBound 1 Int.one_pos

/-- "Cart" is near "Carst" itself, and "cast" near "carst". -/
theorem found_carst :
    closeOverCostCastCart.found "Carst".toList = [(1, "Cart".toList), (1, "cast".toList)] := by
  have hasWritten : costCastCart.lookup "Carst".toList 1 = ["Cart".toList] :=
    WordList.lookup_of_within [⟨1, 2, "Cart".toList⟩] (by decide) rfl (by decide)
  have hsmall : costCastCart.lookup "carst".toList 1 = ["cast".toList] :=
    WordList.lookup_of_within [⟨1, 1, "cast".toList⟩] (by decide) rfl (by decide)
  have hlookup : ∀ q ∈ closeOverCostCastCart.queries "Carst".toList, costCastCart.lookup q 1 =
      if q = "Carst".toList then ["Cart".toList] else ["cast".toList] :=
    List.forall_mem_cons.mpr ⟨hasWritten, List.forall_mem_singleton.mpr hsmall⟩
  rw [found_of_lookup hlookup]
  rfl

theorem candidates_carst : closeOverCostCastCart.candidates Unit "Carst".toList =
    [⟨"Cart".toList, 1, none⟩, ⟨"Cast".toList, 1, none⟩] := by
  rw [candidates_of_found rfl found_carst (by decide)]
  rfl

/-- Trying two edits, "Cart" and "Cast" come first for "Carst". -/
theorem candidates_withBound_carst : (1 : Int) ≤ overCostCastCart.maxDistance ∧
    [⟨"Cart".toList, 1, none⟩, ⟨"Cast".toList, 1, none⟩] <+:
      overCostCastCart.candidates Unit "Carst".toList := by
  have hle : (1 : Int) ≤ overCostCastCart.maxDistance := by decide
  refine ⟨hle, ?_⟩
  rw [← candidates_carst]
  exact (candidates_withBound (s := overCostCastCart) rfl hle).1

end Examples

end Speller

end Copyedit.Spelling
