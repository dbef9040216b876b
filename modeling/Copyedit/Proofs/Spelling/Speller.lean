import Copyedit.Proofs.Sorting
import Copyedit.Proofs.Spelling.WordList
import Copyedit.Spelling.Speller

/-!
# What a speller suggests

`Speller.Corrects s word t n` says that `t` corrects `word` at the cost `n`: it is a listed word near a
form of `word`, or `word` split into two known words, in the casing of `word`. A speller over a word list
suggests all such texts but the word itself, each once and at its least cost, in the order of these costs
(`candidates_ofEntries`).

Candidates are kept from what is found after sorting by cost and recasing, so that the first of equal
corrections is a cheapest one (`candidates_least`). None costs nothing: a listed form of a word would make
the word known (`Corrects.pos`).
-/

namespace Copyedit.Spelling.Speller

variable {s : Speller} {word : Text}

/-! ### Known words -/

/-- A word is known iff one of the forms that are looked up is listed. -/
theorem isKnown_iff : s.isKnown word = true ↔ ∃ q ∈ s.queries word, s.dictionary.contains q = true := by
  unfold isKnown queries
  cases s.convertsCase <;> simp

theorem isMisspelled_iff : s.isMisspelled word = true ↔ word ≠ [] ∧ s.isKnown word = false := by
  simp [isMisspelled]

/-! ### What is found -/

theorem mem_runOnSplits_iff {t : Text} :
    t ∈ s.runOnSplits word ↔ ∃ i, 2 ≤ i ∧ i + 2 ≤ word.length ∧ s.isKnown (word.take i) = true ∧
      s.isKnown (word.drop i) = true ∧ t = word.take i ++ ' ' :: word.drop i := by
  simp only [runOnSplits, leastPart, List.mem_filterMap, List.mem_range'_1]
  constructor
  · rintro ⟨i, ⟨hle, hlt⟩, hsome⟩
    split_ifs at hsome with hknown
    rw [Bool.and_eq_true] at hknown
    exact ⟨i, hle, by omega, hknown.1, hknown.2, (Option.some.inj hsome).symm⟩
  · rintro ⟨i, hle, hlt, hfirst, hsecond, rfl⟩
    exact ⟨i, ⟨hle, by omega⟩, if_pos (by rw [hfirst, hsecond]; rfl)⟩

/-- Whether a correction is two known words run together. -/
def IsRunOn (s : Speller) (word t : Text) : Prop :=
  s.splitsRunOns = true ∧ ∃ u ∈ s.runOnSplits word, s.recase word u = t

theorem mem_found_iff {n : Nat} {t : Text} :
    (n, t) ∈ s.found word ↔
      (∃ q ∈ s.queries word, t ∈ s.dictionary.lookup q s.maxDistance ∧ leastCost q t = n) ∨
        (s.splitsRunOns = true ∧ t ∈ s.runOnSplits word ∧ n = 1) := by
  simp only [found, splitDistance, List.mem_append, List.mem_flatMap, List.mem_map, Prod.mk.injEq,
    distance_eq]
  refine or_congr ?_ ?_
  · constructor
    · rintro ⟨q, hq, w, hw, hn, rfl⟩
      exact ⟨q, hq, hw, hn⟩
    · rintro ⟨q, hq, ht, hn⟩
      exact ⟨q, hq, t, ht, hn, rfl⟩
  · cases s.splitsRunOns with
    | false => simp
    | true => simp [eq_comm, and_comm]

/-- What is found, where it is known what looking up each form of a word yields. -/
theorem found_of_lookup {f : Text → List Text}
    (h : ∀ q ∈ s.queries word, s.dictionary.lookup q s.maxDistance = f q) :
    s.found word =
      (s.queries word).flatMap (fun q => (f q).map fun w => (Spelling.distance q w, w)) ++
        if s.splitsRunOns then (s.runOnSplits word).map fun w => (splitDistance, w) else [] := by
  unfold found
  congr 1
  exact List.flatMap_congr fun q hq => by rw [h q hq]

/-! ### Candidates -/

/-- What was found, nearest first and in the casing of the word. -/
def recased (S : Type) (s : Speller) (word : Text) : List (Candidate S) :=
  ((s.found word).mergeSort (·.1 ≤ ·.1)).map fun e => ⟨s.recase word e.2, e.1, none⟩

variable {S : Type}

theorem candidates_of_isMisspelled (h : s.isMisspelled word = true) :
    s.candidates S word = distinctFrom (·.correction) [word] (s.recased S word) :=
  if_pos h

theorem candidates_of_not_isMisspelled (h : s.isMisspelled word = false) :
    s.candidates S word = [] := by
  unfold candidates
  rw [h]
  rfl

theorem mem_recased_iff {c : Candidate S} :
    c ∈ s.recased S word ↔ ∃ e ∈ s.found word, (⟨s.recase word e.2, e.1, none⟩ : Candidate S) = c := by
  rw [recased, List.mem_map]
  simp only [(List.mergeSort_perm _ _).mem_iff]

theorem pairwise_recased (S : Type) (s : Speller) (word : Text) :
    (s.recased S word).Pairwise fun a b => a.distance ≤ b.distance := by
  rw [recased, List.pairwise_map]
  exact (pairwise_mergeSort_key (·.1) (s.found word)).imp Int.ofNat_le.mpr

/-- Where what is found comes in order, the candidates are the first of each correction. -/
theorem candidates_of_found {found : List (Nat × Text)} (h : s.isMisspelled word = true)
    (hfound : s.found word = found) (hsorted : found.Pairwise fun a b => a.1 ≤ b.1) :
    s.candidates S word = distinctFrom (·.correction) [word]
      (found.map fun e => ⟨s.recase word e.2, e.1, none⟩) := by
  have hmerge : found.mergeSort (fun a b => a.1 ≤ b.1) = found :=
    List.mergeSort_of_pairwise (hsorted.imp decide_eq_true)
  rw [candidates_of_isMisspelled h, recased, hfound, hmerge]

theorem candidates_sublist : (s.candidates S word).Sublist (s.recased S word) := by
  unfold candidates
  split_ifs
  · exact distinctFrom_sublist _ _ _
  · exact List.nil_sublist _

theorem pairwise_candidates (S : Type) (s : Speller) (word : Text) :
    (s.candidates S word).Pairwise fun a b => a.distance ≤ b.distance :=
  (pairwise_recased S s word).sublist candidates_sublist

theorem nodup_candidates (S : Type) (s : Speller) (word : Text) :
    ((s.candidates S word).map (·.correction)).Nodup := by
  unfold candidates
  split_ifs
  · exact nodup_distinctFrom _ _ _
  · exact List.nodup_nil

/-- The corrections of a misspelled word are what was found for it, recased, but the word itself. -/
theorem mem_corrections_iff (h : s.isMisspelled word = true) {t : Text} :
    t ∈ (s.candidates S word).map (·.correction) ↔
      t ≠ word ∧ ∃ e ∈ s.found word, s.recase word e.2 = t := by
  rw [candidates_of_isMisspelled h, mem_keys_distinctFrom, List.mem_singleton, and_comm, List.mem_map]
  refine and_congr_right fun _ => ?_
  constructor
  · rintro ⟨c, hc, rfl⟩
    obtain ⟨e, he, rfl⟩ := mem_recased_iff.mp hc
    exact ⟨e, he, rfl⟩
  · rintro ⟨e, he, rfl⟩
    exact ⟨_, mem_recased_iff.mpr ⟨e, he, rfl⟩, rfl⟩

/-- A candidate is found at its distance, and nothing that yields the same correction at a lesser one. -/
theorem candidates_least {c : Candidate S} (hc : c ∈ s.candidates S word) :
    (∃ e ∈ s.found word, s.recase word e.2 = c.correction ∧ c.distance = e.1) ∧
      ∀ e ∈ s.found word, s.recase word e.2 = c.correction → c.distance ≤ e.1 := by
  refine ⟨?_, fun e he hcorrection => ?_⟩
  · obtain ⟨e, he, rfl⟩ := mem_recased_iff.mp (candidates_sublist.subset hc)
    exact ⟨e, he, rfl, rfl⟩
  · unfold candidates at hc
    split_ifs at hc
    · exact distinctFrom_le (pairwise_recased S s word) hc (mem_recased_iff.mpr ⟨e, he, rfl⟩) hcorrection
    · exact absurd hc List.not_mem_nil

/-! ### Corrections -/

/-- Whether `t` corrects `word` at a cost. -/
inductive Corrects (s : Speller) (word : Text) : Text → Nat → Prop where
  /-- A listed word is near a form of the word. -/
  | near {q w : Text} : q ∈ s.queries word → s.dictionary.contains w = true →
      leastCost q w ≤ s.maxDistance → Corrects s word (s.recase word w) (leastCost q w)
  /-- The word is two known words run together. -/
  | split {i : Nat} : s.splitsRunOns = true → 2 ≤ i → i + 2 ≤ word.length →
      s.isKnown (word.take i) = true → s.isKnown (word.drop i) = true →
      Corrects s word (s.recase word (word.take i ++ ' ' :: word.drop i)) 1

/-- No correction of a misspelled word is free. -/
theorem Corrects.pos {t : Text} {n : Nat} (h : s.Corrects word t n) (hunknown : s.isKnown word = false) :
    1 ≤ n := by
  cases h with
  | @near q w hq hw hle =>
    refine Nat.one_le_iff_ne_zero.mpr fun hzero => ?_
    obtain rfl := leastCost_eq_zero_iff.mp hzero
    have hknown := isKnown_iff.mpr ⟨q, hq, hw⟩
    rw [hunknown] at hknown
    cases hknown
  | split => exact Nat.le_refl 1

theorem Corrects.le_maxDistance {t : Text} {n : Nat} (h : s.Corrects word t n) : n ≤ s.maxDistance := by
  cases h with
  | near _ _ hle => exact hle
  | split =>
    have := s.maxDistance_pos
    omega

/-! ### Word lists -/

section WordList

variable {listed : List Entry} {convertsCase : Bool} {name : String}

/-- Looking up finds the listed words near a text. -/
theorem mem_lookup_iff (hs : s.dictionary.listing = .words (.ofEntries listed convertsCase name))
    {q w : Text} : w ∈ s.dictionary.lookup q s.maxDistance ↔
      s.dictionary.contains w = true ∧ leastCost q w ≤ s.maxDistance := by
  simp only [Dictionary.lookup, Dictionary.contains, hs, WordList.contains_iff, WordList.mem_lookup_iff]

/-- What is found over a word list, recased, are the corrections with their costs. -/
theorem corrects_iff (hs : s.dictionary.listing = .words (.ofEntries listed convertsCase name))
    {t : Text} {n : Nat} :
    s.Corrects word t n ↔ ∃ e ∈ s.found word, s.recase word e.2 = t ∧ e.1 = n := by
  constructor
  · rintro (@⟨q, w, hq, hw, hle⟩ | @⟨i, hsplits, hleast, hlen, hfirst, hsecond⟩)
    · have hnear := (mem_lookup_iff hs).mpr ⟨hw, hle⟩
      exact ⟨(leastCost q w, w), mem_found_iff.mpr (.inl ⟨q, hq, hnear, rfl⟩), rfl, rfl⟩
    · have hsplit := mem_runOnSplits_iff.mpr ⟨i, hleast, hlen, hfirst, hsecond, rfl⟩
      exact ⟨(1, _), mem_found_iff.mpr (.inr ⟨hsplits, hsplit, rfl⟩), rfl, rfl⟩
  · rintro ⟨⟨n, w⟩, he, rfl, rfl⟩
    rcases mem_found_iff.mp he with ⟨q, hq, hw, rfl⟩ | ⟨hsplits, hw, rfl⟩
    · obtain ⟨hlisted, hle⟩ := (mem_lookup_iff hs).mp hw
      exact .near hq hlisted hle
    · obtain ⟨i, hleast, hlen, hfirst, hsecond, rfl⟩ := mem_runOnSplits_iff.mp hw
      exact .split hsplits hleast hlen hfirst hsecond

/-- **Suggestions.**  For a misspelled word, a speller over a word list suggests exactly what corrects it,
but the word itself: each correction once, at the least cost of making it, which lies between one and the
greatest number of edits, and in the order of these costs.  It suggests nothing for a word that is empty
or known. -/
theorem candidates_ofEntries
    (hs : s.dictionary.listing = .words (.ofEntries listed convertsCase name)) :
    (s.isMisspelled word = true →
      (∀ t, t ∈ (s.candidates S word).map (·.correction) ↔ t ≠ word ∧ ∃ n, s.Corrects word t n) ∧
      ((s.candidates S word).map (·.correction)).Nodup ∧
      (∀ c ∈ s.candidates S word, ∃ n : Nat, c.distance = n ∧
        IsLeast {m | s.Corrects word c.correction m} n ∧ 1 ≤ n ∧ n ≤ s.maxDistance) ∧
      (s.candidates S word).Pairwise fun a b => a.distance ≤ b.distance) ∧
    (word = [] ∨ s.isKnown word = true → s.candidates S word = []) := by
  refine ⟨fun h => ⟨fun t => ?_, nodup_candidates S s word, fun c hc => ?_, pairwise_candidates S s word⟩,
    fun h => ?_⟩
  · rw [mem_corrections_iff h]
    refine and_congr_right fun _ => ⟨?_, ?_⟩
    · rintro ⟨e, he, hcorrection⟩
      exact ⟨e.1, (corrects_iff hs).mpr ⟨e, he, hcorrection, rfl⟩⟩
    · rintro ⟨n, hn⟩
      obtain ⟨e, he, hcorrection, -⟩ := (corrects_iff hs).mp hn
      exact ⟨e, he, hcorrection⟩
  · obtain ⟨⟨e, he, hcorrection, hdistance⟩, hleast⟩ := candidates_least hc
    have hcorrects := (corrects_iff hs).mpr ⟨e, he, hcorrection, rfl⟩
    refine ⟨e.1, hdistance, ⟨hcorrects, fun m hm => ?_⟩, hcorrects.pos (isMisspelled_iff.mp h).2,
      hcorrects.le_maxDistance⟩
    obtain ⟨e', he', hcorrection', rfl⟩ := (corrects_iff hs).mp hm
    have hle := hleast e' he' hcorrection'
    omega
  · refine candidates_of_not_isMisspelled ?_
    rw [← Bool.not_eq_true, isMisspelled_iff]
    rintro ⟨hne, hunknown⟩
    rcases h with h | h
    · exact hne h
    · rw [hunknown] at h
      cases h

/-- A speller over a list of "good" alone that tries one edit. -/
def overGood : Speller where
  dictionary := ⟨0, .words (.ofEntries [⟨"good".toList, []⟩] false "words")⟩
  maxDistance := 1
  maxDistance_pos := by decide
  locale := .english
  splitsRunOns := false

/-- "good" is suggested for "goof", as one edit away. -/
theorem candidates_goof : overGood.isMisspelled "goof".toList = true ∧
    ∃ c ∈ overGood.candidates Unit "goof".toList, c.correction = "good".toList ∧ c.distance = 1 := by
  have hmisspelled : overGood.isMisspelled "goof".toList = true := by rfl
  obtain ⟨hmem, -, hleast, -⟩ :=
    (@candidates_ofEntries overGood "goof".toList Unit _ _ _ rfl).1 hmisspelled
  have script : EditScript "goof".toList "good".toList 1 :=
    .keep 'g' (.keep 'o' (.keep 'o' (.substitute 'f' 'd' .nil)))
  have hgood : overGood.Corrects "goof".toList "good".toList (leastCost "goof".toList "good".toList) :=
    .near List.mem_cons_self (by rfl) (Int.ofNat_le.mpr script.leastCost_le)
  obtain ⟨c, hc, hcorrection⟩ := List.mem_map.mp ((hmem "good".toList).mpr ⟨by decide, _, hgood⟩)
  obtain ⟨n, hdistance, -, hpos, hle⟩ := hleast c hc
  have hmax : overGood.maxDistance = 1 := rfl
  exact ⟨hmisspelled, c, hc, hcorrection, by omega⟩

end WordList

end Copyedit.Spelling.Speller
