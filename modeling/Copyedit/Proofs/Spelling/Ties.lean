import Copyedit.Proofs.Spelling.Bound
import Copyedit.Proofs.Spelling.MultiSpeller

/-!
# Corrections that are as near

Of corrections at the same distance that come from one listed word each, those from words nearest to the
word itself come first, then those from words nearest to its other forms.  Only among words nearest to the
same form does the order of listing decide (`candidates_ties`).  Of a list with "cast" before "Cart",
"Cart" is suggested for "Carst" before "Cast": the one is near the word as it is written, the other comes
from what is near "carst" (`exists_listed_later_first`).

The candidates come in the order in which the corrections are first found, after sorting by distance.
Sorting leaves alone what is found at one distance, and that is what is near each form of the word, one
form after the other.
-/

namespace Copyedit.Spelling.Speller

variable {S : Type} {s : Speller} {word t v w : Text} {c : Candidate S} {n : Nat}

/-! ### Where corrections come from -/

/-- Whether a listed word is within the greatest number of edits of a form of the word. -/
def IsNear (s : Speller) (word w : Text) : Prop :=
  ∃ q ∈ s.queries word, w ∈ s.dictionary.lookup q s.maxDistance

/-- Whether `w` is the one listed word that a correction comes from. -/
structure IsSource (s : Speller) (word t w : Text) : Prop where
  /-- The word is near. -/
  isNear : s.IsNear word w
  /-- In the casing of the misspelled word it is the correction. -/
  recase_eq : s.recase word w = t
  /-- No other one near is. -/
  unique : ∀ v, s.IsNear word v → s.recase word v = t → v = w
  /-- Nor is the misspelled word split. -/
  not_isRunOn : ¬ s.IsRunOn word t

/-- The place of the form of a word that a listed word is nearest to. -/
def nearestForm (s : Speller) (word w : Text) : Nat :=
  (s.queries word).findIdx fun q =>
    (s.queries word).all fun q' => Spelling.distance q w ≤ Spelling.distance q' w

/-- Whether of two listed words at the same distance `v` is the one that comes first. -/
def Precedes (s : Speller) (listing : List Text) (word v w : Text) : Prop :=
  s.nearestForm word v < s.nearestForm word w ∨
    s.nearestForm word v = s.nearestForm word w ∧ listing.idxOf v < listing.idxOf w

/-- A word that is taken as it is written has one form. -/
theorem TakesAsWritten.precedes_iff (h : s.TakesAsWritten word) (listing : List Text) (v w : Text) :
    s.Precedes listing word v w ↔ listing.idxOf v < listing.idxOf w := by
  have hone : ∀ u, s.nearestForm word u = 0 := by
    intro u
    unfold nearestForm
    rw [h.queries_eq]
    simp [List.findIdx_cons]
  simp [Precedes, hone]

/-- What looking up a form yields at a distance. -/
def lookupAt (s : Speller) (n : Nat) (q : Text) : List Text :=
  (s.dictionary.lookup q s.maxDistance).filter fun w => Spelling.distance q w = n

theorem mem_lookupAt_iff {q : Text} : w ∈ s.lookupAt n q ↔
    w ∈ s.dictionary.lookup q s.maxDistance ∧ Spelling.distance q w = n := by
  rw [lookupAt, List.mem_filter, decide_eq_true_eq]

/-- What looking up all forms of a word yields at a distance. -/
def wordsAt (s : Speller) (word : Text) (n : Nat) : List Text := (s.queries word).flatMap (s.lookupAt n)

theorem mem_wordsAt_iff : w ∈ s.wordsAt word n ↔ ∃ q ∈ s.queries word, w ∈ s.lookupAt n q :=
  List.mem_flatMap

/-- What is found at a distance are the words there and then splits. -/
theorem exists_filter_found_eq (s : Speller) (word : Text) (n : Nat) : ∃ splits,
    ((s.found word).filter fun e => e.1 = n).map (·.2) = s.wordsAt word n ++ splits := by
  unfold found wordsAt
  rw [List.filter_append, List.map_append, List.filter_flatMap, List.map_flatMap]
  refine ⟨_, congrArg (· ++ _) (List.flatMap_congr fun q _ => ?_)⟩
  rw [List.filter_map, List.map_map]
  exact List.map_id _

namespace IsSource

/-- What is found and yields the correction is the word at one of its distances. -/
theorem mem_wordsAt_of_mem_found (h : s.IsSource word t w) {e : Nat × Text} (he : e ∈ s.found word)
    (hrecase : s.recase word e.2 = t) : w ∈ s.wordsAt word e.1 := by
  rcases mem_found_iff.mp he with ⟨q, hq, hlookup, hcost⟩ | ⟨hsplits, hsplit, -⟩
  · obtain rfl := h.unique e.2 ⟨q, hq, hlookup⟩ hrecase
    exact mem_wordsAt_iff.mpr ⟨q, hq, mem_lookupAt_iff.mpr ⟨hlookup, (distance_eq q _).trans hcost⟩⟩
  · exact absurd ⟨hsplits, e.2, hsplit, hrecase⟩ h.not_isRunOn

variable (h : s.IsSource word c.correction w) (hc : c ∈ s.candidates S word) (hn : c.distance = n)

include h hc hn

/-- The word is found at the distance of its candidate. -/
theorem mem_wordsAt : w ∈ s.wordsAt word n := by
  obtain ⟨⟨e, he, hrecase, hdistance⟩, -⟩ := candidates_least hc
  obtain rfl : e.1 = n := by omega
  exact h.mem_wordsAt_of_mem_found he hrecase

/-- The word stands among the words at its distance as its correction does among what is found. -/
theorem idxOf_recased : ((s.recased S word).map (·.correction)).idxOf c.correction =
    (((s.found word).mergeSort (·.1 ≤ ·.1)).filter fun e => e.1 < n).length +
      (s.wordsAt word n).idxOf w := by
  obtain ⟨-, hleast⟩ := candidates_least hc
  -- splits come behind the words, so that they do not matter
  obtain ⟨splits, hsplits⟩ := exists_filter_found_eq s word n
  have hmap : ((s.found word).filter fun e => e.1 = n).map (fun e => s.recase word e.2) =
      (s.wordsAt word n).map (s.recase word) ++ splits.map (s.recase word) := by
    rw [← List.map_append, ← hsplits, List.map_map]
    rfl
  have hmem : c.correction ∈ (s.wordsAt word n).map (s.recase word) :=
    List.mem_map.mpr ⟨w, h.mem_wordsAt hc hn, h.recase_eq⟩
  have honly : ∀ v ∈ s.wordsAt word n, s.recase word v = s.recase word w → v = w := by
    intro v hv hrecase
    obtain ⟨q, hq, hlookup⟩ := mem_wordsAt_iff.mp hv
    exact h.unique v ⟨q, hq, (mem_lookupAt_iff.mp hlookup).1⟩ (hrecase.trans h.recase_eq)
  have hle : ∀ e ∈ s.found word, s.recase word e.2 = c.correction → n ≤ e.1 := by
    intro e he hrecase
    have hle := hleast e he hrecase
    omega
  have hplace := idxOf_map_mergeSort_key (fun e : Nat × Text => s.recase word e.2) hle
    (hmap ▸ List.mem_append_left _ hmem)
  rw [hmap, List.idxOf_append_of_mem hmem, ← h.recase_eq, idxOf_map_of_forall_eq _ honly] at hplace
  rw [recased, List.map_map, ← h.recase_eq]
  exact hplace

end IsSource

/-- Where no split is found, a word is the source of what only it yields. -/
theorem isSource_of_found (hsplits : s.runOnSplits word = []) (hw : (n, w) ∈ s.found word)
    (hunique : ∀ e ∈ s.found word, s.recase word e.2 = s.recase word w → e.2 = w) :
    s.IsSource word (s.recase word w) w := by
  have hnone : ∀ u, u ∉ s.runOnSplits word := by
    rw [hsplits]
    exact fun u => List.not_mem_nil
  refine ⟨?_, rfl, ?_, fun ⟨_, u, hu, _⟩ => hnone u hu⟩
  · rcases mem_found_iff.mp hw with ⟨q, hq, hlookup, -⟩ | ⟨-, hu, -⟩
    · exact ⟨q, hq, hlookup⟩
    · exact absurd hu (hnone w)
  · rintro v ⟨q, hq, hlookup⟩
    exact hunique (leastCost q v, v) (mem_found_iff.mpr (.inl ⟨q, hq, hlookup, rfl⟩))

/-! ### Word lists -/

section WordList

variable {listed : List Entry} {convertsCase : Bool} {name : String}
  (hs : s.dictionary.listing = .words (.ofEntries listed convertsCase name))

include hs

/-- A form is as far from the word as its candidate is iff no form is nearer. -/
theorem IsSource.mem_lookupAt_iff (h : s.IsSource word c.correction w) (hc : c ∈ s.candidates S word)
    (hn : c.distance = n) {q : Text} (hq : q ∈ s.queries word) : w ∈ s.lookupAt n q ↔
      ((s.queries word).all fun q' => Spelling.distance q w ≤ Spelling.distance q' w) = true := by
  obtain ⟨q₀, hq₀, hmem⟩ := mem_wordsAt_iff.mp (h.mem_wordsAt hc hn)
  obtain ⟨hlookup, heq⟩ := Speller.mem_lookupAt_iff.mp hmem
  obtain ⟨hlisted, hle⟩ := (mem_lookup_iff hs).mp hlookup
  -- a form that were nearer would have found the word at its distance
  have hleast : ∀ q' ∈ s.queries word, n ≤ leastCost q' w := by
    intro q' hq'
    by_cases hbound : leastCost q' w ≤ s.maxDistance
    · have hnear := (mem_lookup_iff hs).mpr ⟨hlisted, hbound⟩
      have hfound := mem_found_iff.mpr (.inl ⟨q', hq', hnear, rfl⟩)
      have hcandidate := (candidates_least hc).2 _ hfound h.recase_eq
      omega
    · rw [distance_eq] at heq
      omega
  rw [Speller.mem_lookupAt_iff, mem_lookup_iff hs, List.all_eq_true]
  simp only [decide_eq_true_eq, distance_eq] at heq ⊢
  constructor
  · rintro ⟨-, hq⟩ q' hq'
    exact hq ▸ hleast q' hq'
  · intro hall
    have hge := hleast q hq
    have hle := hall q₀ hq₀
    exact ⟨⟨hlisted, by omega⟩, by omega⟩

/-- Words at one distance from a form come as they are listed. -/
theorem idxOf_lookupAt_lt_iff {q : Text} (hv : v ∈ s.lookupAt n q) (hw : w ∈ s.lookupAt n q) :
    (s.lookupAt n q).idxOf v < (s.lookupAt n q).idxOf w ↔
      (listed.map (·.word)).idxOf v < (listed.map (·.word)).idxOf w := by
  have hlookup : s.dictionary.lookup q s.maxDistance =
      (WordList.ofEntries listed convertsCase name).lookup q s.maxDistance := by
    simp only [Dictionary.lookup, hs]
  have hprecedes := WordList.pairwise_lookup listed convertsCase name q s.maxDistance
  rw [← hlookup] at hprecedes
  have horder : (s.lookupAt n q).Pairwise fun v w =>
      (listed.map (·.word)).idxOf v < (listed.map (·.word)).idxOf w := by
    refine (hprecedes.filter _).imp_of_mem fun {v w} hv hw hvw => ?_
    obtain ⟨-, hv⟩ := mem_lookupAt_iff.mp hv
    obtain ⟨-, hw⟩ := mem_lookupAt_iff.mp hw
    rw [distance_eq] at hv hw
    rcases hvw with hlt | ⟨-, hlt⟩
    · omega
    · exact hlt
  exact idxOf_lt_iff_of_pairwise horder hv hw

/-- Corrections from one word each come as their words precede each other. -/
theorem pairwise_precedes (S : Type) (word : Text) :
    (s.candidates S word).Pairwise fun c c' => c.distance = c'.distance →
      ∀ w w', s.IsSource word c.correction w → s.IsSource word c'.correction w' →
        s.Precedes (listed.map (·.word)) word w w' := by
  cases hmisspelled : s.isMisspelled word with
  | false =>
    rw [candidates_of_not_isMisspelled hmisspelled]
    exact List.Pairwise.nil
  | true =>
    have horder := pairwise_idxOf_distinctFrom (·.correction) [word] (s.recased S word)
    rw [← candidates_of_isMisspelled hmisspelled] at horder
    refine horder.imp_of_mem fun hc hc' hlt hdistance w w' h h' => ?_
    obtain ⟨⟨e, -, -, hn⟩, -⟩ := candidates_least hc
    have hn' := hdistance.symm.trans hn
    -- both are found at one distance, where sorting leaves the order alone
    rw [h.idxOf_recased hc hn, h'.idxOf_recased hc' hn', Nat.add_lt_add_iff_left] at hlt
    exact (idxOf_flatMap_lt_iff (h.mem_wordsAt hc hn) (fun q hq => h.mem_lookupAt_iff hs hc hn hq)
      (fun q hq => h'.mem_lookupAt_iff hs hc' hn' hq) fun q _ => idxOf_lookupAt_lt_iff hs).mp hlt

/-- **Ties.**  Of candidates at the same distance that come from one listed word each, the one comes first
whose word is nearest to an earlier form of the misspelled word, or of two with the same nearest form the
one whose word is listed first.  For a word that is taken as it is written, they come as they are
listed. -/
theorem candidates_ties :
    (s.candidates S word).Pairwise (fun c c' => c.distance = c'.distance →
      ∀ w w', s.IsSource word c.correction w → s.IsSource word c'.correction w' →
        s.Precedes (listed.map (·.word)) word w w') ∧
    (s.TakesAsWritten word → (s.candidates S word).Pairwise fun c c' => c.distance = c'.distance →
      ∀ w w', s.IsSource word c.correction w → s.IsSource word c'.correction w' →
        (listed.map (·.word)).idxOf w < (listed.map (·.word)).idxOf w') := by
  have hprecedes := pairwise_precedes hs S word
  refine ⟨hprecedes, fun htakes => hprecedes.imp fun hties hdistance w w' h h' => ?_⟩
  exact (htakes.precedes_iff _ w w').mp (hties hdistance w w' h h')

end WordList

/-! ### Two forms -/

section Examples

theorem isSource_cart :
    closeOverCostCastCart.IsSource "Carst".toList "Cart".toList "Cart".toList := by
  have hsplits : closeOverCostCastCart.runOnSplits "Carst".toList = [] := rfl
  refine isSource_of_found (n := 1) (w := "Cart".toList) hsplits ?_ ?_ <;> rw [found_carst] <;> decide

theorem isSource_cast :
    closeOverCostCastCart.IsSource "Carst".toList "Cast".toList "cast".toList := by
  have hsplits : closeOverCostCastCart.runOnSplits "Carst".toList = [] := rfl
  refine isSource_of_found (n := 1) (w := "cast".toList) hsplits ?_ ?_ <;> rw [found_carst] <;> decide

/-- "Cart" is nearest to the word as it is written, "cast" only to the word in lower case. -/
theorem nearestForm_carst : closeOverCostCastCart.nearestForm "Carst".toList "Cart".toList <
    closeOverCostCastCart.nearestForm "Carst".toList "cast".toList := by
  obtain ⟨hties, -⟩ := @candidates_ties Unit closeOverCostCastCart "Carst".toList _ _ _ rfl
  rw [candidates_carst, List.pairwise_pair] at hties
  refine (hties rfl _ _ isSource_cart isSource_cast).resolve_right fun ⟨_, hlt⟩ => ?_
  revert hlt
  decide

/-- A correction may come before another at the same distance though its word is listed later. -/
theorem exists_listed_later_first : ∃ (s : Speller) (listed : List Entry) (word : Text)
    (c c' : Candidate Unit) (w w' : Text), s.dictionary.listing = .words (.ofEntries listed) ∧
      s.candidates Unit word = [c, c'] ∧ c.distance = c'.distance ∧
      s.IsSource word c.correction w ∧ s.IsSource word c'.correction w' ∧
      (listed.map (·.word)).idxOf w' < (listed.map (·.word)).idxOf w :=
  ⟨closeOverCostCastCart, _, "Carst".toList, _, _, "Cart".toList, "cast".toList, rfl,
    candidates_carst, rfl, isSource_cart, isSource_cast, by decide⟩

end Examples

end Copyedit.Spelling.Speller
