import Copyedit.Proofs.Sorting
import Copyedit.Proofs.Spelling.Distance
import Copyedit.Proofs.Spelling.SingleEdit
import Copyedit.Proofs.Spelling.WordList
import Copyedit.Spelling.FrequencyList
import Mathlib.Data.Prod.Lex

/-!
# Looking up in a frequency list

What a frequency list finds near a word is found by editing the word in lower case, and measured against the
word as it is written.  An editor that makes at least all texts one and two edits away
(`Editor.Covers`) misses nothing: a frequency list of words that are their own lower case finds exactly
those within the bound, and within two edits (`lookupBy_covers`).  For lower case leads no farther away from
such words, and a script of one or two edits falls into single ones.

They come nearer ones first, then more frequent ones, then in alphabetical order (`Precedes`).  A word list of
the same words finds the same ones, the empty word apart: a word list never holds that one, and a frequency
list may (`exists_empty_found`).
-/

namespace Copyedit

namespace Spelling

/-! ### Editors -/

/-- What is relied on in an editor of a word: it makes at least all texts that can be made from the word in
lower case by one single edit, or by two. -/
structure Editor.Covers (e : Editor) (letters : List Char) (word : Text) : Prop where
  /-- One edit. -/
  once : ∀ w, SingleEdit letters word.lower w → e.once word w = true
  /-- Two edits. -/
  twice : ∀ v w, SingleEdit letters word.lower v → SingleEdit letters v w → e.twice word w = true

/-- An editor that covers the edits of a word yields each word that is its own lower case and lies within
the bound. -/
theorem Editor.Covers.reaches {e : Editor} {letters : List Char} {word w : Text} {bound : Nat}
    (h : e.Covers letters word) (hword : word ≠ []) (hlength : word.lower.length = word.length)
    (hown : w.lower = w) (hletters : ∀ c ∈ w, c ∈ letters) (htwo : bound ≤ 2)
    (hcost : leastCost word w ≤ bound) : e.reaches word bound w = true := by
  have hempty : word.lower ≠ [] := by
    rw [← List.length_pos_iff, hlength]
    exact List.length_pos_iff.mpr hword
  have hlower : leastCost word.lower w ≤ bound := (leastCost_lower_le hlength hown).trans hcost
  have hscript := editScript_leastCost word.lower w
  simp only [Editor.reaches, Bool.or_eq_true, Bool.and_eq_true, beq_iff_eq, decide_eq_true_eq]
  by_cases hzero : bound = 0
  · -- without edits only the word itself is found
    subst hzero
    exact .inl (.inl (leastCost_eq_zero_iff.mp (Nat.le_zero.mp hcost)).symm)
  · by_cases hnone : leastCost word.lower w = 0
    · -- the word in lower case: a letter takes its own place
      obtain rfl := leastCost_eq_zero_iff.mp hnone
      exact .inl (.inr ⟨by omega, h.once _ (SingleEdit.refl hempty hletters)⟩)
    · obtain ⟨v, hfirst, hrest⟩ := hscript.exists_singleEdit hnone hletters
      by_cases hone : leastCost word.lower w - 1 = 0
      · obtain rfl := hrest.eq_of_zero hone
        exact .inl (.inr ⟨by omega, h.once _ hfirst⟩)
      · obtain ⟨v', hsecond, hrest⟩ := hrest.exists_singleEdit hone hletters
        obtain rfl := hrest.eq_of_zero (by omega)
        exact .inr ⟨by omega, h.twice _ _ hfirst hsecond⟩

/-! ### Finds in order -/

namespace FrequencyList

/-- What is found, as it is compared. -/
def Found.key (f : Found) : ℕ ×ₗ ℤᵒᵈ ×ₗ Text :=
  toLex (f.distance, toLex (OrderDual.toDual f.count, f.word))

theorem Found.le_eq : Found.le = fun a b => decide (a.key ≤ b.key) := by
  funext a b
  rw [Bool.eq_iff_iff]
  simp only [Found.le, Found.key, Prod.Lex.toLex_le_toLex, OrderDual.toDual_lt_toDual,
    OrderDual.toDual_inj, Text.le_iff, Bool.or_eq_true, Bool.and_eq_true, decide_eq_true_eq, beq_iff_eq]

theorem found?_eq_some_iff {e : Editor} {word : Text} {bound : Int} {entry : Text × Int} {f : Found} :
    found? e word bound entry = some f ↔
      (leastCost word entry.1 ≤ bound ∧ e.reaches word bound.toNat entry.1 = true) ∧
        f = ⟨leastCost word entry.1, entry.2, entry.1⟩ := by
  unfold found?
  split
  · rename_i n hn
    obtain ⟨rfl, hle⟩ := boundedDistance_eq_some_iff.mp hn
    rw [Option.ite_none_right_eq_some, Option.some_inj]
    constructor
    · rintro ⟨hreaches, rfl⟩
      exact ⟨⟨hle, hreaches⟩, rfl⟩
    · rintro ⟨⟨-, hreaches⟩, rfl⟩
      exact ⟨hreaches, rfl⟩
  · rename_i hn
    simp only [reduceCtorEq, false_iff]
    rintro ⟨⟨hle, -⟩, -⟩
    rw [boundedDistance_eq_some_iff.mpr ⟨rfl, hle⟩] at hn
    cases hn

/-! ### The editor of a list -/

theorem mem_singleEdits {letters : List Char} {t u : Text} (h : SingleEdit letters t u) :
    u ∈ singleEdits letters t := by
  induction h with
  | delete c t => simp [singleEdits]
  | @insert c hc t => cases t <;> simp [singleEdits, hc]
  | replace c hd t => simp [singleEdits, hd]
  | pass c h ih => simp [singleEdits, ih]

/-- The editor of a list covers the edits of a word, if it edits the word and all that one edit makes of it,
and these are their own lower case. -/
theorem covers_editor {d : FrequencyList} {word : Text} (hedits : d.edits word.lower = true)
    (hagain : ∀ v ∈ singleEdits d.letters word.lower, d.edits v = true ∧ v.lower = v) :
    d.editor.Covers d.letters word where
  once w h := by
    show d.isNear d.letters word.lower w = true
    rw [isNear, if_pos hedits, isSingleEdit_iff]
    exact mem_singleEdits h
  twice v w hv hw := by
    show ((d.near word.lower).any fun v => d.isNear d.letters v.lower w) = true
    rw [near, if_pos hedits, List.any_eq_true]
    obtain ⟨hedits', hown⟩ := hagain v (mem_singleEdits hv)
    refine ⟨v, mem_singleEdits hv, ?_⟩
    rw [hown, isNear, if_pos hedits', isSingleEdit_iff]
    exact mem_singleEdits hw

/-! ### Looking up -/

/-- Whether `v` stands before `w` among the words near `word`: it is nearer, or as near and more frequent, or
as near and as frequent and before it in alphabetical order. -/
def Precedes (d : FrequencyList) (word v w : Text) : Prop :=
  leastCost word v < leastCost word w ∨ leastCost word v = leastCost word w ∧
    (d.frequency w < d.frequency v ∨ d.frequency v = d.frequency w ∧ v < w)

section Lookup

variable {d : FrequencyList} {e : Editor} {word w : Text} {bound : Int}

theorem contains_iff : d.contains w = true ↔ w ∈ d.counts.map (·.1) := by
  rw [contains, Option.isSome_iff_exists]
  constructor
  · rintro ⟨n, h⟩
    exact List.mem_map.mpr ⟨(w, n), mem_of_lookup_eq_some h, rfl⟩
  · intro h
    obtain ⟨⟨w, n⟩, hn, rfl⟩ := List.mem_map.mp h
    exact ⟨n, lookup_of_mem_of_nodup d.nodup hn⟩

theorem frequency_of_mem {n : Int} (h : (w, n) ∈ d.counts) : d.frequency w = n := by
  rw [frequency, lookup_of_mem_of_nodup d.nodup h, Option.getD_some]

/-- The letters of a list are those of its words. -/
theorem mem_letters (h : d.contains w = true) : ∀ c ∈ w, c ∈ d.letters := by
  intro c hc
  obtain ⟨entry, hentry, rfl⟩ := List.mem_map.mp (contains_iff.mp h)
  rw [letters, List.mem_eraseDups, List.mem_flatMap]
  exact ⟨entry, hentry, hc⟩

/-- A listed word is found iff it is within the bound and the editor makes it. -/
theorem mem_lookupBy_iff (hword : word ≠ []) (hbound : 0 ≤ bound) :
    w ∈ d.lookupBy e word bound ↔ d.contains w = true ∧
      (leastCost word w ≤ min bound maxBound ∧ e.reaches word (min bound maxBound).toNat w = true) := by
  have hno : ¬ (decide (bound < 0) || word.isEmpty) = true := by simp [hword, hbound]
  rw [lookupBy, if_neg hno, ((List.mergeSort_perm _ _).map _).mem_iff, contains_iff]
  simp only [List.mem_map, List.mem_filterMap, found?_eq_some_iff]
  constructor
  · rintro ⟨-, ⟨entry, hentry, hfound, rfl⟩, rfl⟩
    exact ⟨⟨entry, hentry, rfl⟩, hfound⟩
  · rintro ⟨⟨entry, hentry, rfl⟩, hfound⟩
    exact ⟨_, ⟨entry, hentry, hfound, rfl⟩, rfl⟩

theorem of_mem_filterMap {f : Found} (hf : f ∈ d.counts.filterMap (found? e word bound)) :
    f.distance = leastCost word f.word ∧ f.count = d.frequency f.word := by
  obtain ⟨entry, hentry, hsome⟩ := List.mem_filterMap.mp hf
  obtain ⟨-, rfl⟩ := found?_eq_some_iff.mp hsome
  exact ⟨rfl, (frequency_of_mem hentry).symm⟩

theorem pairwise_word_ne :
    (d.counts.filterMap (found? e word bound)).Pairwise fun f g => f.word ≠ g.word := by
  rw [List.pairwise_filterMap]
  refine (List.pairwise_map.mp d.nodup).imp ?_
  intro entry entry' hne f hf g hg
  obtain ⟨-, rfl⟩ := found?_eq_some_iff.mp hf
  obtain ⟨-, rfl⟩ := found?_eq_some_iff.mp hg
  exact hne

/-- Words are found in order, none twice. -/
theorem pairwise_lookupBy : (d.lookupBy e word bound).Pairwise (d.Precedes word) := by
  unfold lookupBy
  split_ifs
  · exact List.Pairwise.nil
  · rw [Found.le_eq, List.pairwise_map]
    have hsorted := pairwise_mergeSort_key Found.key (d.counts.filterMap (found? e word (min bound maxBound)))
    have hperm := List.mergeSort_perm (d.counts.filterMap (found? e word (min bound maxBound)))
      fun f g => f.key ≤ g.key
    have hdistinct := (hperm.pairwise_iff Ne.symm).mpr pairwise_word_ne
    refine (hsorted.and hdistinct).imp_of_mem ?_
    intro f g hf hg ⟨hle, hne⟩
    obtain ⟨hdf, hcf⟩ := of_mem_filterMap (hperm.mem_iff.mp hf)
    obtain ⟨hdg, hcg⟩ := of_mem_filterMap (hperm.mem_iff.mp hg)
    rw [Found.key, Found.key, Prod.Lex.toLex_le_toLex, Prod.Lex.toLex_le_toLex] at hle
    rw [Precedes, ← hdf, ← hdg, ← hcf, ← hcg]
    rcases hle with hnearer | ⟨hdistance, hfrequent | ⟨hcount, hword⟩⟩
    · exact .inl hnearer
    · exact .inr ⟨hdistance, .inl hfrequent⟩
    · -- distinct words stand in alphabetical order
      exact .inr ⟨hdistance, .inr ⟨hcount, hword.lt_of_ne hne⟩⟩

theorem Precedes.ne {v : Text} (h : d.Precedes word v w) : v ≠ w := by
  rintro rfl
  rcases h with h | ⟨-, h | ⟨-, h⟩⟩
  · exact Nat.lt_irrefl _ h
  · exact Int.lt_irrefl _ h
  · exact lt_irrefl _ h

theorem nodup_lookupBy : (d.lookupBy e word bound).Nodup :=
  pairwise_lookupBy.imp Precedes.ne

/-- With an editor that makes at least the texts one and two edits away, exactly the listed words within the
bound, and within two edits, are found. -/
theorem mem_lookupBy_of_covers (hown : ∀ w, d.contains w = true → w.lower = w) (hword : word ≠ [])
    (hlength : word.lower.length = word.length) (hbound : 0 ≤ bound) (hcovers : e.Covers d.letters word) :
    w ∈ d.lookupBy e word bound ↔ d.contains w = true ∧ leastCost word w ≤ min bound maxBound := by
  rw [mem_lookupBy_iff hword hbound]
  refine and_congr_right fun hw => and_iff_left_of_imp fun hcost => ?_
  have hmax : maxBound = 2 := rfl
  exact hcovers.reaches hword hlength (hown w hw) (mem_letters hw) (by omega) (by omega)

end Lookup

/-- **Looking up in a frequency list** of words that are their own lower case, near a word that lower case
leaves as long as it is, with an editor that makes at least the texts one and two edits away: exactly the
listed words within the bound, and within two edits, are found, each once, nearer ones first, then more
frequent ones, then in alphabetical order.  A word list of the same words finds the same but the empty word. -/
theorem lookupBy_covers (d : FrequencyList) (e : Editor) (word : Text) (bound : Int)
    (hown : ∀ w, d.contains w = true → w.lower = w) (hword : word ≠ [])
    (hlength : word.lower.length = word.length) (hbound : 0 ≤ bound) (hcovers : e.Covers d.letters word) :
    (∀ w, w ∈ d.lookupBy e word bound ↔ d.contains w = true ∧ leastCost word w ≤ min bound 2) ∧
    (d.lookupBy e word bound).Nodup ∧
    (d.lookupBy e word bound).Pairwise (d.Precedes word) ∧
    ∀ (listed : List Entry) (convertsCase : Bool) (name : String),
      (∀ w, w ∈ listed.map (·.word) ↔ d.contains w = true) →
      ∀ w, w ∈ (WordList.ofEntries listed convertsCase name).lookup word (min bound 2) ↔
        w ≠ [] ∧ w ∈ d.lookupBy e word bound := by
  have hmem : ∀ w, w ∈ d.lookupBy e word bound ↔
      d.contains w = true ∧ leastCost word w ≤ min bound 2 :=
    fun w => mem_lookupBy_of_covers hown hword hlength hbound hcovers
  refine ⟨hmem, nodup_lookupBy, pairwise_lookupBy, fun listed convertsCase name hlisted w => ?_⟩
  rw [WordList.mem_lookup_iff, WordList.mem_words_ofEntries, hlisted, hmem, and_assoc]

/-- Three words with their counts. -/
def threeWords : FrequencyList :=
  ofWords [] [("the".toList, 5), ("he".toList, 5), ("tea".toList, 7)]

/-- In a list of three words, "Teh" is put into lower case and edited twice at most. -/
theorem lookup_teh :
    (∀ w, threeWords.contains w = true → w.lower = w) ∧ "Teh".toList ≠ [] ∧
    (Text.lower "Teh".toList).length = "Teh".toList.length ∧ (0 : Int) ≤ 5 ∧
    threeWords.editor.Covers threeWords.letters "Teh".toList ∧
    (∀ w, w ∈ threeWords.lookup "Teh".toList 5 ↔
      threeWords.contains w = true ∧ (leastCost "Teh".toList w : Int) ≤ min 5 2) ∧
    (threeWords.lookup "Teh".toList 5).Nodup ∧
    (threeWords.lookup "Teh".toList 5).Pairwise (threeWords.Precedes "Teh".toList) ∧
    ∀ w, w ∈ (WordList.ofEntries [⟨"he".toList, []⟩, ⟨"tea".toList, []⟩, ⟨"the".toList, []⟩]).lookup
      "Teh".toList 2 ↔ w ≠ [] ∧ w ∈ threeWords.lookup "Teh".toList 5 := by
  have hown : ∀ w, threeWords.contains w = true → w.lower = w := by
    have hall : ∀ w ∈ threeWords.counts.map (·.1), w.lower = w := by decide +kernel
    exact fun w hw => hall w (contains_iff.mp hw)
  have hcovers : threeWords.editor.Covers threeWords.letters "Teh".toList :=
    covers_editor (by decide +kernel) (by decide +kernel)
  obtain ⟨hmem, hnodup, hpairwise, hlist⟩ := lookupBy_covers threeWords threeWords.editor "Teh".toList 5
    hown (by decide) (by decide) (by decide) hcovers
  refine ⟨hown, by decide, by decide, by decide, hcovers, hmem, hnodup, hpairwise, hlist _ _ _ fun w => ?_⟩
  have hcounts : threeWords.counts.map (·.1) = ["the".toList, "he".toList, "tea".toList] := by
    decide +kernel
  rw [contains_iff, hcounts]
  simp only [List.map_cons, List.map_nil, List.mem_cons, List.not_mem_nil, or_false]
  tauto

/-- The empty word and one more. -/
def emptyAndOne : FrequencyList := ofWords [[], ['b']] []

/-- The empty word is one edit away from "a".  A frequency list that holds it finds it, a word list of the same
words does not. -/
theorem exists_empty_found :
    (∀ w, emptyAndOne.contains w = true → w.lower = w) ∧
    (Text.lower ['a']).length = ['a'].length ∧ emptyAndOne.editor.Covers emptyAndOne.letters ['a'] ∧
    (∀ w, w ∈ [[], ['b']] ↔ emptyAndOne.contains w = true) ∧
    [] ∈ emptyAndOne.lookup ['a'] 1 ∧
    [] ∉ (WordList.ofEntries [⟨[], []⟩, ⟨['b'], []⟩]).lookup ['a'] 1 := by
  have hcounts : emptyAndOne.counts.map (·.1) = [[], ['b']] := by decide +kernel
  have hcontains : ∀ w, w ∈ [[], ['b']] ↔ emptyAndOne.contains w = true := by
    intro w
    rw [contains_iff, hcounts]
  have hown : ∀ w, emptyAndOne.contains w = true → w.lower = w := by
    have hall : ∀ w ∈ ([[], ['b']] : List Text), w.lower = w := by decide
    exact fun w hw => hall w ((hcontains w).mpr hw)
  have hcovers : emptyAndOne.editor.Covers emptyAndOne.letters ['a'] :=
    covers_editor (by decide +kernel) (by decide +kernel)
  refine ⟨hown, by decide, hcovers, hcontains, ?_, ?_⟩
  · have hcost : leastCost ['a'] [] = 1 := leastCost_nil_right ['a']
    refine (mem_lookupBy_of_covers hown (by decide) (by decide) (by decide) hcovers).mpr ⟨?_, ?_⟩
    · exact (hcontains []).mp List.mem_cons_self
    · rw [hcost]
      decide
  · rw [WordList.mem_lookup_iff, WordList.mem_words_ofEntries]
    exact fun h => h.1.1 rfl

end FrequencyList

end Spelling

end Copyedit
