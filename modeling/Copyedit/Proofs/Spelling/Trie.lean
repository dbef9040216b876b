import Copyedit.Proofs.Spelling.Distance
import Copyedit.Spelling.Trie
import Mathlib.Data.List.Perm.Basic
import Mathlib.Data.List.Sigma

/-!
# What a trie holds

`Trie.entries` lists the words of a trie with their numbers. Inserting a new word adds one entry and
changes no other (`entries_insert_perm`), so the trie of distinct words holds each at its place
(`entries_ofWords_perm`). The walk through a trie finds what a search through all entries would find
(`within_eq`): what it leaves out lies below a path whose row is past the bound everywhere, and is itself
past the bound by `leastOf_rowOf_le`.
-/

namespace Copyedit.Spelling.Trie

/-! ### Entries -/

/-- An entry as it is seen from above a path. -/
def under (path : Text) (e : Text × Nat) : Text × Nat := (path ++ e.1, e.2)

/-- The words of a trie with their numbers. -/
def entries : Trie → List (Text × Nat)
  | leaf => []
  | node c entry below beside =>
    entry.toList.map (fun number => ([c], number)) ++ below.entries.map (under [c]) ++ beside.entries

theorem under_under (p q : Text) (e : Text × Nat) : under p (under q e) = under (p ++ q) e := by
  simp only [under, List.append_assoc]

theorem entries_single {w : Text} (number : Nat) (hw : w ≠ []) :
    (single number w).entries = [(w, number)] := by
  fun_induction single number w with
  | case1 => exact absurd rfl hw
  | case2 c => simp [entries]
  | case3 c rest hrest ih => simp [entries, ih hrest, under]

/-- Inserting a new word adds one entry. -/
theorem entries_insert_perm {t : Trie} {w : Text} {number : Nat} (hw : w ≠ [])
    (hnew : t.find? w = none) : (t.insert w number).entries.Perm ((w, number) :: t.entries) := by
  fun_induction insert t w number with
  | case1 w number => rw [entries_single number hw, entries]
  | case2 d entry below beside number => exact absurd rfl hw
  | case3 entry below beside c rest number hrest =>
    obtain rfl := List.isEmpty_iff.mp hrest
    have hentry : entry = none := by simpa [find?] using hnew
    rw [hentry]
    exact List.Perm.refl _
  | case4 entry below beside c rest number hrest ih =>
    have hbelow : below.find? rest = none := by simpa [find?, hrest] using hnew
    have h := (ih (by simpa using hrest) hbelow).map (under [c])
    exact ((h.append_left _).trans List.perm_middle).append_right beside.entries
  | case5 d entry below beside c rest number hc ih =>
    have hbeside : beside.find? (c :: rest) = none := by simpa [find?, hc] using hnew
    exact ((ih hw hbeside).append_left _).trans List.perm_middle

/-! ### Looking up what was inserted -/

theorem find?_single {w : Text} (number : Nat) (hw : w ≠ []) (v : Text) :
    (single number w).find? v = if v = w then some number else none := by
  fun_induction single number w generalizing v with
  | case1 => exact absurd rfl hw
  | case2 c =>
    rcases v with - | ⟨x, v⟩
    · simp [find?]
    · by_cases hx : x = c <;> simp [find?, hx]
  | case3 c rest hrest ih =>
    rcases v with - | ⟨x, v⟩
    · simp [find?]
    · by_cases hx : x = c
      · rcases v with - | ⟨y, v⟩
        · simp [find?, hx, Ne.symm hrest]
        · simp [find?, hx, ih hrest]
      · simp [find?, hx]

/-- An inserted word is found under its number, and every other word as before. -/
theorem find?_insert (t : Trie) {w : Text} (number : Nat) (hw : w ≠ []) (v : Text) :
    (t.insert w number).find? v = if v = w then some number else t.find? v := by
  fun_induction insert t w number generalizing v with
  | case1 w number => rw [find?_single number hw, find?]
  | case2 d entry below beside number => exact absurd rfl hw
  | case3 entry below beside c rest number hrest =>
    obtain rfl := List.isEmpty_iff.mp hrest
    rcases v with - | ⟨x, v⟩
    · simp [find?]
    · by_cases hx : x = c
      · by_cases hv : v = [] <;> simp [find?, hx, hv]
      · simp [find?, hx]
  | case4 entry below beside c rest number hrest ih =>
    have hrest : rest ≠ [] := by simpa using hrest
    rcases v with - | ⟨x, v⟩
    · simp [find?]
    · by_cases hx : x = c
      · rcases v with - | ⟨y, v⟩
        · simp [find?, hx, Ne.symm hrest]
        · simp [find?, hx, ih hrest]
      · simp [find?, hx]
  | case5 d entry below beside c rest number hc ih =>
    rcases v with - | ⟨x, v⟩
    · simp [find?]
    · by_cases hx : x = d
      · simp [find?, hx, Ne.symm hc]
      · simp [find?, hx, ih hw]

/-! ### Tries of numbered words -/

theorem ofWords_concat (ws : List Text) (w : Text) :
    ofWords (ws ++ [w]) = (ofWords ws).insert w ws.length := by
  simp [ofWords, List.zipIdx_append]

/-- A trie of words finds these words and no others. -/
theorem isSome_find?_ofWords {ws : List Text} (hne : [] ∉ ws) (v : Text) :
    ((ofWords ws).find? v).isSome = true ↔ v ∈ ws := by
  induction ws using List.reverseRecOn with
  | nil => simp [ofWords, find?]
  | append_singleton ws w ih =>
    rw [List.mem_append, List.mem_singleton, not_or] at hne
    rw [ofWords_concat, find?_insert _ _ (Ne.symm hne.2), List.mem_append, List.mem_singleton,
      ← ih hne.1]
    by_cases hv : v = w <;> simp [hv]

/-- The trie of distinct words holds each at its place. -/
theorem entries_ofWords_perm {ws : List Text} (hne : [] ∉ ws) (hnodup : ws.Nodup) :
    (ofWords ws).entries.Perm ws.zipIdx := by
  induction ws using List.reverseRecOn with
  | nil => exact List.Perm.refl _
  | append_singleton ws w ih =>
    rw [List.mem_append, List.mem_singleton, not_or] at hne
    obtain ⟨hws, -, hdisjoint⟩ := List.nodup_append.mp hnodup
    have hnew : (ofWords ws).find? w = none := by
      rw [← Option.not_isSome_iff_eq_none, isSome_find?_ofWords hne.1]
      exact fun hw => hdisjoint w hw w (List.mem_singleton_self w) rfl
    rw [ofWords_concat, List.zipIdx_append, Nat.zero_add, List.zipIdx_singleton]
    calc ((ofWords ws).insert w ws.length).entries
        |>.Perm ((w, ws.length) :: (ofWords ws).entries) :=
          entries_insert_perm (Ne.symm hne.2) hnew
      _ |>.Perm ((w, ws.length) :: ws.zipIdx) := (ih hne.1 hws).cons _
      _ |>.Perm (ws.zipIdx ++ [(w, ws.length)]) := (List.perm_append_singleton _ _).symm

/-! ### The walk -/

/-- What a search through all entries makes of one. -/
noncomputable def hitOf? (word : Text) (bound : Nat) (e : Text × Nat) : Option Hit :=
  if leastCost word e.1 ≤ bound then some ⟨leastCost word e.1, e.2, e.1⟩ else none

theorem hitOf?_eq_some_iff {word : Text} {bound : Nat} {e : Text × Nat} {h : Hit} :
    hitOf? word bound e = some h ↔
      leastCost word e.1 ≤ bound ∧ h = ⟨leastCost word e.1, e.2, e.1⟩ := by
  unfold hitOf?
  split_ifs with hle
  · simp [hle, eq_comm]
  · simp [hle]

/-- Nothing is found below a path whose row is past the bound everywhere. -/
theorem hitOf?_under_eq_none {word path : Text} {bound : Nat}
    (hrow : bound < leastOf (rowOf word path)) (e : Text × Nat) :
    hitOf? word bound (under path e) = none := by
  have h := leastOf_rowOf_le word path e.1
  rw [leastCost_comm] at h
  exact if_neg (by simp only [under]; omega)

/-- The walk finds what a search through all entries finds. -/
theorem within_eq (word : Text) (bound : Nat) (path : Text) (t : Trie) :
    t.within word bound (rowOf word path.reverse) path =
      t.entries.filterMap fun e => hitOf? word bound (under path.reverse e) := by
  induction t generalizing path with
  | leaf => rfl
  | node c entry below beside ihBelow ihBeside =>
    have row : nextRow word c (rowOf word path.reverse) = rowOf word (c :: path).reverse := by
      rw [List.reverse_cons, rowOf_concat]
    simp only [within, entries, row, List.filterMap_append, List.filterMap_map]
    refine congrArg₂ (· ++ ·) (congrArg₂ (· ++ ·) ?_ ?_) (ihBeside path)
    -- the word that ends here
    · cases entry with
      | none => rfl
      | some number =>
        rw [lastOf_rowOf, leastCost_comm, List.reverse_cons]
        by_cases h : leastCost word (path.reverse ++ [c]) ≤ bound
        · simp [hitOf?, under, h]
        · simp [hitOf?, under, h]
    -- what lies below, walked through or out of reach
    · have below_under : (fun e => hitOf? word bound (under path.reverse e)) ∘ under [c] =
          fun e => hitOf? word bound (under (c :: path).reverse e) := by
        funext e
        rw [Function.comp_apply, under_under, List.reverse_cons]
      rw [below_under]
      split_ifs with hrow
      · exact ihBelow (c :: path)
      · rw [eq_comm, List.filterMap_eq_nil_iff]
        exact fun e _ => hitOf?_under_eq_none (Nat.lt_of_not_le hrow) e

/-! ### The words found -/

theorem Hit.le_iff (a b : Hit) :
    a.le b = true ↔ a.distance < b.distance ∨ a.distance = b.distance ∧ a.number ≤ b.number := by
  simp [Hit.le]

theorem Hit.le_trans (a b c : Hit) (hab : a.le b = true) (hbc : b.le c = true) : a.le c = true := by
  rw [Hit.le_iff] at *
  omega

theorem Hit.le_total (a b : Hit) : (a.le b || b.le a) = true := by
  rw [Bool.or_eq_true, Hit.le_iff, Hit.le_iff]
  omega

/-- Whether `v` stands before `w` among the words near `word`: it is nearer, or as near and listed
earlier. -/
def Precedes (listing : List Text) (word v w : Text) : Prop :=
  leastCost word v < leastCost word w ∨
    leastCost word v = leastCost word w ∧ listing.idxOf v < listing.idxOf w

theorem Precedes.ne {listing : List Text} {word v w : Text} (h : Precedes listing word v w) :
    v ≠ w := by
  rintro rfl
  rcases h with h | ⟨-, h⟩
  · exact Nat.lt_irrefl _ h
  · exact Nat.lt_irrefl _ h

section Lookup

variable {ws : List Text} (hne : [] ∉ ws) (hnodup : ws.Nodup) (word : Text) (bound : Nat)

include hne hnodup

/-- The walk through the trie of distinct words finds what a search through the words finds. -/
theorem within_ofWords_perm :
    ((ofWords ws).within word bound (firstRow word) []).Perm
      (ws.zipIdx.filterMap (hitOf? word bound)) := by
  have walk := within_eq word bound [] (ofWords ws)
  simp only [List.reverse_nil, under, List.nil_append] at walk
  rw [show firstRow word = rowOf word [] from rfl, walk]
  exact (entries_ofWords_perm hne hnodup).filterMap _

theorem mem_within_ofWords {h : Hit}
    (hmem : h ∈ (ofWords ws).within word bound (firstRow word) []) :
    h.distance = leastCost word h.word ∧ ws.idxOf h.word = h.number := by
  rw [(within_ofWords_perm hne hnodup word bound).mem_iff, List.mem_filterMap] at hmem
  obtain ⟨⟨w, number⟩, he, hhit⟩ := hmem
  obtain ⟨-, rfl⟩ := hitOf?_eq_some_iff.mp hhit
  refine ⟨rfl, ?_⟩
  obtain ⟨hlt, hget⟩ := List.getElem?_eq_some_iff.mp (List.mk_mem_zipIdx_iff_getElem?.mp he)
  rw [← hget]
  exact hnodup.idxOf_getElem number hlt

/-- A word is found iff it is in the trie and within the bound. -/
theorem mem_lookup_ofWords (w : Text) :
    w ∈ (ofWords ws).lookup word bound ↔ w ∈ ws ∧ leastCost word w ≤ bound := by
  rw [lookup, ((List.mergeSort_perm _ _).map _).mem_iff,
    ((within_ofWords_perm hne hnodup word bound).map _).mem_iff]
  simp only [List.mem_map, List.mem_filterMap, hitOf?_eq_some_iff]
  constructor
  · rintro ⟨-, ⟨⟨v, number⟩, he, hle, rfl⟩, rfl⟩
    exact ⟨List.fst_mem_of_mem_zipIdx he, hle⟩
  · rintro ⟨hw, hle⟩
    obtain ⟨i, hi, rfl⟩ := List.getElem_of_mem hw
    exact ⟨_, ⟨(ws[i], i), List.mk_mem_zipIdx_iff_getElem?.mpr (List.getElem?_eq_getElem hi), hle, rfl⟩,
      rfl⟩

theorem pairwise_number_within_ofWords :
    ((ofWords ws).within word bound (firstRow word) []).Pairwise fun a b => a.number ≠ b.number := by
  rw [(within_ofWords_perm hne hnodup word bound).pairwise_iff Ne.symm, List.pairwise_filterMap]
  refine (List.pairwise_map.mp (List.nodup_zipIdx_map_snd ws)).imp ?_
  intro e e' hnumber a ha b hb
  obtain ⟨-, rfl⟩ := hitOf?_eq_some_iff.mp ha
  obtain ⟨-, rfl⟩ := hitOf?_eq_some_iff.mp hb
  exact hnumber

/-- Words are found in order, none twice. -/
theorem pairwise_lookup_ofWords :
    ((ofWords ws).lookup word bound).Pairwise (Precedes ws word) := by
  have perm := List.mergeSort_perm ((ofWords ws).within word bound (firstRow word) []) Hit.le
  have sorted := List.pairwise_mergeSort Hit.le_trans Hit.le_total
    ((ofWords ws).within word bound (firstRow word) [])
  have distinct := (perm.pairwise_iff Ne.symm).mpr
    (pairwise_number_within_ofWords hne hnodup word bound)
  rw [lookup, List.pairwise_map]
  refine (sorted.and distinct).imp_of_mem ?_
  intro a b ha hb ⟨hle, hnumber⟩
  obtain ⟨da, ia⟩ := mem_within_ofWords hne hnodup word bound (perm.mem_iff.mp ha)
  obtain ⟨db, ib⟩ := mem_within_ofWords hne hnodup word bound (perm.mem_iff.mp hb)
  rw [Hit.le_iff] at hle
  rw [Precedes, ← da, ← db, ia, ib]
  omega

end Lookup

end Copyedit.Spelling.Trie
