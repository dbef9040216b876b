import Copyedit.Proofs.Sequence
import Copyedit.Proofs.Spelling.Trie
import Copyedit.Spelling.WordList

/-!
# Looking up in a word list

A word list holds the listed words but the empty one, each once, in the order of first listing
(`words_ofEntries`), with all tags that they are listed with (`mem_tagsFor_ofEntries`); the trie holds the same
words (`contains_iff`). Looking up what is near a word is a
search through the listed words (`lookup_ofEntries`).
-/

namespace Copyedit.Spelling

/-! ### Entries -/

theorem map_word_addEntry (entries : List Entry) (e : Entry) :
    (addEntry entries e).map (·.word) =
      if e.word = [] ∨ e.word ∈ entries.map (·.word) then entries.map (·.word)
      else entries.map (·.word) ++ [e.word] := by
  by_cases hempty : e.word = []
  · unfold addEntry
    simp [hempty]
  · induction entries with
    | nil => simp [addEntry, hempty]
    | cons x rest ih =>
      by_cases hx : x.word = e.word
      · simp [addEntry, hempty, hx]
      · simp only [addEntry, List.isEmpty_iff, hempty, hx, ↓reduceIte, List.map_cons, ih,
          List.mem_cons, Ne.symm hx, false_or]
        split_ifs <;> rfl

/-- The tags of a word in entries; none if it has no entry. -/
def tagsIn (entries : List Entry) (word : Text) : List Text :=
  ((entries.find? (·.word == word)).map (·.tags)).getD []

theorem tagsIn_cons (x : Entry) (entries : List Entry) (word : Text) :
    tagsIn (x :: entries) word = if x.word = word then x.tags else tagsIn entries word := by
  unfold tagsIn
  by_cases h : x.word = word <;> simp [h]

/-- Adding an entry adds its tags to its word, unless this is empty. -/
theorem mem_tagsIn_addEntry (entries : List Entry) (e : Entry) (word tag : Text) :
    tag ∈ tagsIn (addEntry entries e) word ↔
      tag ∈ tagsIn entries word ∨ e.word ≠ [] ∧ e.word = word ∧ tag ∈ e.tags := by
  by_cases hempty : e.word = []
  · unfold addEntry
    rw [if_pos (List.isEmpty_iff.mpr hempty), or_iff_left fun h => h.1 hempty]
  · rw [and_iff_right hempty]
    induction entries with
    | nil =>
      rw [addEntry, if_neg (mt List.isEmpty_iff.mp hempty), tagsIn_cons]
      by_cases hword : e.word = word <;> simp [tagsIn, hword]
    | cons x rest ih =>
      -- the tags go to this entry, or to one behind it
      rw [addEntry, if_neg (mt List.isEmpty_iff.mp hempty)]
      split
      · rename_i hx
        rw [tagsIn_cons, tagsIn_cons, hx]
        split
        · rename_i hword
          rw [List.mem_eraseDups, List.mem_append, and_iff_right hword]
        · rename_i hword
          rw [or_iff_left fun h => hword h.1]
      · rename_i hx
        rw [tagsIn_cons, tagsIn_cons]
        split
        · rename_i hword
          rw [or_iff_left fun h => hx (hword.trans h.1.symm)]
        · exact ih

namespace WordList

/-- Looking up finds the words of the hits, where these come in order. -/
theorem lookup_of_within {d : WordList} {word : Text} {bound : Int} (hits : List Trie.Hit)
    (hbound : 0 ≤ bound) (hwithin : d.trie.within word bound.toNat (firstRow word) [] = hits)
    (hsorted : hits.Pairwise fun a b => a.le b = true) :
    d.lookup word bound = hits.map (·.word) := by
  unfold lookup Trie.lookup
  rw [if_neg (Int.not_lt.mpr hbound), hwithin, List.mergeSort_of_pairwise hsorted]

/-- The words are those listed but the empty one, each once, in the order of first listing. -/
theorem words_ofEntries (listed : List Entry) (convertsCase : Bool) (name : String) :
    (ofEntries listed convertsCase name).words = distinctFrom id [[]] (listed.map (·.word)) :=
  map_key_foldl (List.map Entry.word) Entry.word [[]]
    (fun entries e => by simp only [map_word_addEntry, List.mem_singleton]) listed [] (by simp)

section OfEntries

variable (listed : List Entry) (convertsCase : Bool) (name : String)

theorem mem_words_ofEntries (w : Text) :
    w ∈ (ofEntries listed convertsCase name).words ↔ w ≠ [] ∧ w ∈ listed.map (·.word) := by
  have h := mem_keys_distinctFrom id [[]] (listed.map (·.word)) w
  rw [List.map_id, List.map_id, List.mem_singleton] at h
  rw [words_ofEntries, h, and_comm]

/-- The tags of a word are those that it is listed with. -/
theorem mem_tagsFor_ofEntries (w tag : Text) :
    tag ∈ (ofEntries listed convertsCase name).tagsFor w ↔
      ∃ e ∈ listed, e.word ≠ [] ∧ e.word = w ∧ tag ∈ e.tags := by
  have hfold : ∀ entries : List Entry, tag ∈ tagsIn (listed.foldl addEntry entries) w ↔
      tag ∈ tagsIn entries w ∨ ∃ e ∈ listed, e.word ≠ [] ∧ e.word = w ∧ tag ∈ e.tags := by
    induction listed with
    | nil => simp
    | cons e listed ih =>
      intro entries
      rw [List.foldl_cons, ih, mem_tagsIn_addEntry, or_assoc]
      simp only [List.exists_mem_cons_iff]
  exact (hfold []).trans (or_iff_right List.not_mem_nil)

theorem nodup_words_ofEntries : (ofEntries listed convertsCase name).words.Nodup := by
  have h := nodup_distinctFrom id [[]] (listed.map (·.word))
  rw [List.map_id] at h
  rw [words_ofEntries]
  exact h

theorem nil_notMem_words_ofEntries : [] ∉ (ofEntries listed convertsCase name).words := by
  rw [mem_words_ofEntries]
  exact fun h => h.1 rfl

/-- The trie holds the words of the entries. -/
theorem contains_iff (w : Text) :
    (ofEntries listed convertsCase name).contains w = true ↔
      w ∈ (ofEntries listed convertsCase name).words :=
  Trie.isSome_find?_ofWords (nil_notMem_words_ofEntries listed convertsCase name) w

/-- What comes first among the words of the list comes first in the listing. -/
theorem idxOf_listed_lt {v w : Text} (hw : w ∈ (ofEntries listed convertsCase name).words)
    (hlt : (ofEntries listed convertsCase name).words.idxOf v <
      (ofEntries listed convertsCase name).words.idxOf w) :
    (listed.map (·.word)).idxOf v < (listed.map (·.word)).idxOf w := by
  have order := pairwise_idxOf_distinctFrom id [[]] (listed.map (·.word))
  rw [← words_ofEntries listed convertsCase name, List.map_id] at order
  have hv : v ∈ (ofEntries listed convertsCase name).words :=
    List.idxOf_lt_length_iff.mp (Nat.lt_trans hlt (List.idxOf_lt_length_of_mem hw))
  exact (idxOf_lt_iff_of_pairwise order hv hw).mp hlt

theorem lookup_of_neg {d : WordList} (word : Text) {bound : Int} (h : bound < 0) :
    d.lookup word bound = [] :=
  if_pos h

theorem lookup_of_nonneg (word : Text) {bound : Int} (h : 0 ≤ bound) :
    (ofEntries listed convertsCase name).lookup word bound =
      (Trie.ofWords (ofEntries listed convertsCase name).words).lookup word bound.toNat :=
  if_neg (Int.not_lt.mpr h)

theorem mem_lookup_iff (word : Text) (bound : Int) (w : Text) :
    w ∈ (ofEntries listed convertsCase name).lookup word bound ↔
      w ∈ (ofEntries listed convertsCase name).words ∧ leastCost word w ≤ bound := by
  rcases Int.lt_or_le bound 0 with h | h
  · rw [lookup_of_neg word h]
    refine ⟨fun hw => absurd hw List.not_mem_nil, fun ⟨_, hle⟩ => ?_⟩
    omega
  · rw [lookup_of_nonneg listed convertsCase name word h,
      Trie.mem_lookup_ofWords (nil_notMem_words_ofEntries listed convertsCase name)
        (nodup_words_ofEntries listed convertsCase name)]
    refine and_congr_right fun _ => ?_
    omega

theorem pairwise_lookup (word : Text) (bound : Int) :
    ((ofEntries listed convertsCase name).lookup word bound).Pairwise
      (Trie.Precedes (listed.map (·.word)) word) := by
  rcases Int.lt_or_le bound 0 with h | h
  · rw [lookup_of_neg word h]
    exact List.Pairwise.nil
  · have order := Trie.pairwise_lookup_ofWords
      (nil_notMem_words_ofEntries listed convertsCase name)
      (nodup_words_ofEntries listed convertsCase name) word bound.toNat
    rw [← lookup_of_nonneg listed convertsCase name word h] at order
    refine order.imp_of_mem fun _ hw hprecedes => ?_
    have hw := ((mem_lookup_iff listed convertsCase name word bound _).mp hw).1
    exact hprecedes.imp_right fun ⟨hcost, hlt⟩ =>
      ⟨hcost, idxOf_listed_lt listed convertsCase name hw hlt⟩

theorem nodup_lookup (word : Text) (bound : Int) :
    ((ofEntries listed convertsCase name).lookup word bound).Nodup :=
  (pairwise_lookup listed convertsCase name word bound).imp fun h => h.ne

/-- Looking up what costs nothing finds a word iff it is listed. -/
theorem lookup_zero (word : Text) :
    (ofEntries listed convertsCase name).lookup word 0 = [word] ↔
      (ofEntries listed convertsCase name).contains word = true := by
  have hmem := mem_lookup_iff listed convertsCase name word 0
  rw [contains_iff]
  constructor
  · intro h
    exact ((hmem word).mp (h ▸ List.mem_singleton_self word)).1
  · intro h
    refine List.perm_singleton.mp ((List.perm_ext_iff_of_nodup
      (nodup_lookup listed convertsCase name word 0) (List.nodup_singleton word)).mpr fun w => ?_)
    rw [hmem, List.mem_singleton]
    constructor
    · rintro ⟨-, hle⟩
      exact (leastCost_eq_zero_iff.mp (by omega)).symm
    · rintro rfl
      have hzero := leastCost_eq_zero_iff.mpr (rfl : w = w)
      exact ⟨h, by omega⟩

/-- **Looking up** finds the listed words within the bound, but the empty one: each once, nearer ones
first and then in the order of first listing, and none within a negative bound. What is found at no cost
decides whether a word is listed. -/
theorem lookup_ofEntries (word : Text) (bound : Int) :
    (∀ w, w ∈ (ofEntries listed convertsCase name).lookup word bound ↔
      w ≠ [] ∧ w ∈ listed.map (·.word) ∧ leastCost word w ≤ bound) ∧
    ((ofEntries listed convertsCase name).lookup word bound).Nodup ∧
    ((ofEntries listed convertsCase name).lookup word bound).Pairwise
      (Trie.Precedes (listed.map (·.word)) word) ∧
    (bound < 0 → (ofEntries listed convertsCase name).lookup word bound = []) ∧
    ((ofEntries listed convertsCase name).lookup word 0 = [word] ↔
      (ofEntries listed convertsCase name).contains word = true) := by
  refine ⟨fun w => ?_, nodup_lookup listed convertsCase name word bound,
    pairwise_lookup listed convertsCase name word bound, lookup_of_neg word,
    lookup_zero listed convertsCase name word⟩
  rw [mem_lookup_iff, mem_words_ofEntries, and_assoc]

end OfEntries

end WordList

end Copyedit.Spelling
