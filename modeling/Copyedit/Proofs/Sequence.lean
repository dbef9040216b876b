import Copyedit.Sequence
import Mathlib.Data.List.Basic
import Mathlib.Data.List.Pairwise
import Mathlib.Data.List.TakeWhile
import Mathlib.Order.Lattice

/-!
# Tables, starts of lists, distinct items in their order, first places, stretches, places among numbers

In a table whose keys are distinct, a key leads to the value it stands with (`lookup_of_mem_of_nodup`).  One
that is made of entries has each key at the place of its first entry (`map_key_tableOf`) with the value of its
last one (`lookup_tableOf`).

`distinctFrom` keeps the first item of each new key (`mem_distinctFrom_iff`), so keys come in the order
of their first occurrence (`pairwise_idxOf_distinctFrom`), and of items in ascending order the least one
of each key is kept (`distinctFrom_le`).  More items at the end change nothing before them
(`distinctFrom_append`).

Of two items of several lists one after the other, the one that comes first is decided by the lists that
hold them, and by their places in the first one that holds both (`idxOf_flatMap_lt_iff`).

The place of a number among ascending ones, which is found by halving, is behind exactly those that are
not greater (`lt_placeOf_iff`).
-/

namespace Copyedit

/-! ### Tables -/

theorem mem_of_lookup_eq_some {α β : Type} [BEq α] [LawfulBEq α] {table : List (α × β)} {a : α} {b : β}
    (h : table.lookup a = some b) : (a, b) ∈ table := by
  obtain ⟨before, after, htable, -⟩ := List.lookup_eq_some_iff.mp h
  rw [htable]
  exact List.mem_append_right before List.mem_cons_self

theorem lookup_of_mem_of_nodup {α β : Type} [BEq α] [LawfulBEq α] {table : List (α × β)}
    (hnodup : (table.map (·.1)).Nodup) {key : α} {value : β} (h : (key, value) ∈ table) :
    table.lookup key = some value := by
  induction table with
  | nil => exact absurd h List.not_mem_nil
  | cons e rest ih =>
    obtain ⟨hnew, hrest⟩ := List.nodup_cons.mp hnodup
    rw [List.lookup_cons]
    rcases List.mem_cons.mp h with rfl | h
    · rw [beq_self_eq_true]
    · have hkey : key ∈ rest.map (·.1) := List.mem_map.mpr ⟨_, h, rfl⟩
      have hne : key ≠ e.1 := by
        rintro rfl
        exact hnew hkey
      rw [beq_eq_false_iff_ne.mpr hne]
      exact ih hrest h

/-- No key of a table comes twice. -/
theorem nodup_keys_tableOf {α β : Type} [DecidableEq α] (entries : List (α × β)) :
    ((tableOf entries).map (·.1)).Nodup := by
  have hfold : ∀ table : List (α × β), (table.map (·.1)).Nodup →
      ((entries.foldl (fun table e => putKey table e.1 e.2) table).map (·.1)).Nodup := by
    induction entries with
    | nil => exact fun _ h => h
    | cons e rest ih => exact fun table h => ih _ (nodup_keys_putKey h e.1 e.2)
  exact hfold [] List.nodup_nil

/-- Where all entries of a key have one value, it leads to this value. -/
theorem lookup_of_mem_of_forall {α β : Type} [BEq α] [LawfulBEq α] {table : List (α × β)} {key : α} {value : β}
    (h : (key, value) ∈ table) (hsame : ∀ e ∈ table, e.1 = key → e.2 = value) :
    table.lookup key = some value := by
  cases hlookup : table.lookup key with
  | none =>
    have hnot := List.lookup_eq_none_iff.mp hlookup (key, value) h
    simp at hnot
  | some value' => exact congrArg some (hsame _ (mem_of_lookup_eq_some hlookup) rfl)

/-- In a table with given entries, a key leads to the last value that is given for it. -/
theorem lookup_tableOf {α β : Type} [DecidableEq α] [BEq α] [LawfulBEq α] (entries : List (α × β)) (key : α) :
    (tableOf entries).lookup key = entries.reverse.lookup key := by
  have hfold : ∀ table : List (α × β),
      (entries.foldl (fun table e => putKey table e.1 e.2) table).lookup key =
        (entries.reverse.lookup key).or (table.lookup key) := by
    induction entries with
    | nil => exact fun table => rfl
    | cons e rest ih =>
      intro table
      rw [List.foldl_cons, ih, lookup_putKey, List.reverse_cons, List.lookup_append, Option.or_assoc,
        lookup_cons_eq_ite]
      congr 1
      split <;> rfl
  rw [tableOf, hfold, List.lookup_nil, Option.or_none]

/-- The table of entries holds the last value that is given for each key. -/
theorem mem_tableOf_iff {α β : Type} [DecidableEq α] [BEq α] [LawfulBEq α] {entries : List (α × β)} {key : α}
    {value : β} : (key, value) ∈ tableOf entries ↔ entries.reverse.lookup key = some value := by
  rw [← lookup_tableOf]
  exact ⟨lookup_of_mem_of_nodup (nodup_keys_tableOf entries), mem_of_lookup_eq_some⟩

theorem putKey_of_notMem {α β : Type} [DecidableEq α] {table : List (α × β)} {key : α}
    (h : key ∉ table.map (·.1)) (value : β) : putKey table key value = table ++ [(key, value)] := by
  induction table with
  | nil => rfl
  | cons e rest ih =>
    rw [List.map_cons, List.mem_cons, not_or] at h
    rw [putKey, if_neg (Ne.symm h.1), ih h.2, List.cons_append]

theorem map_key_putKey {α β : Type} [DecidableEq α] (table : List (α × β)) (key : α) (value : β) :
    (putKey table key value).map (·.1) =
      if key ∈ table.map (·.1) then table.map (·.1) else table.map (·.1) ++ [key] := by
  split
  · rename_i h
    induction table with
    | nil => cases h
    | cons e rest ih =>
      unfold putKey
      split
      · rfl
      · rename_i hne
        rw [List.map_cons, List.map_cons, ih ((List.mem_cons.mp h).resolve_left (Ne.symm hne))]
  · rename_i h
    rw [putKey_of_notMem h, List.map_append, List.map_singleton]

/-- Where no key comes twice, the table of the entries is the entries. -/
theorem tableOf_eq_self {α β : Type} [DecidableEq α] {entries : List (α × β)}
    (h : (entries.map (·.1)).Nodup) : tableOf entries = entries := by
  have hfold : ∀ table : List (α × β), ((table ++ entries).map (·.1)).Nodup →
      entries.foldl (fun table e => putKey table e.1 e.2) table = table ++ entries := by
    induction entries with
    | nil => exact fun table _ => (List.append_nil table).symm
    | cons e rest ih =>
      intro table hnodup
      have hnew : e.1 ∉ table.map (·.1) := by
        rw [List.map_append, List.map_cons] at hnodup
        exact fun hmem => (List.nodup_append.mp hnodup).2.2 e.1 hmem e.1 List.mem_cons_self rfl
      rw [List.append_cons] at hnodup
      rw [List.foldl_cons, putKey_of_notMem hnew, ih (List.nodup_cons.mp h).2 _ hnodup]
      exact (List.append_cons table e rest).symm
  exact hfold [] h

/-! ### Starts of lists -/

section Starts

variable {α : Type} {p : α → Bool} {front back : List α}

/-- The items that are taken from the start of a list end before the first one that is not taken. -/
theorem takeWhile_append_eq (hfront : ∀ a ∈ front, p a = true)
    (hback : ∀ a, back.head? = some a → p a = false) : (front ++ back).takeWhile p = front := by
  rw [List.takeWhile_append_of_pos hfront]
  cases back with
  | nil => rw [List.takeWhile_nil, List.append_nil]
  | cons a back => rw [List.takeWhile_cons_of_neg (by rw [hback a rfl]; decide), List.append_nil]

/-- They are dropped up to there. -/
theorem dropWhile_append_eq (hfront : ∀ a ∈ front, p a = true)
    (hback : ∀ a, back.head? = some a → p a = false) : (front ++ back).dropWhile p = back := by
  rw [List.dropWhile_append_of_pos hfront]
  cases back with
  | nil => rfl
  | cons a back => rw [List.dropWhile_cons_of_neg (by rw [hback a rfl]; decide)]

theorem eq_false_of_head? {a : α} (ha : p a = false) : ∀ b, (a :: back).head? = some b → p b = false := by
  rintro b ⟨⟩
  exact ha

/-- All items are taken, or there is a first one that is not. -/
theorem forall_or_exists_first (p : α → Bool) (items : List α) : (∀ a ∈ items, p a = true) ∨
    ∃ front a back, items = front ++ a :: back ∧ (∀ b ∈ front, p b = true) ∧ p a = false := by
  cases hdrop : items.dropWhile p with
  | nil => exact .inl (List.dropWhile_eq_nil_iff.mp hdrop)
  | cons a back =>
    refine .inr ⟨items.takeWhile p, a, back, ?_, fun b => List.mem_takeWhile_imp, ?_⟩
    · rw [← hdrop, List.takeWhile_append_dropWhile]
    · have hnot := List.head_dropWhile_not p (l := items) (by rw [hdrop]; exact List.cons_ne_nil _ _)
      simpa only [hdrop, List.head_cons] using hnot

/-- The first item that is not taken, and what stands before and behind it, are told by the list. -/
theorem append_cons_inj {front' back' : List α} {a a' : α} (h : front ++ a :: back = front' ++ a' :: back')
    (hfront : ∀ b ∈ front, p b = true) (ha : p a = false) (hfront' : ∀ b ∈ front', p b = true)
    (ha' : p a' = false) : front = front' ∧ a = a' ∧ back = back' := by
  have htake : (front ++ a :: back).takeWhile p = front := takeWhile_append_eq hfront (eq_false_of_head? ha)
  rw [h, takeWhile_append_eq hfront' (eq_false_of_head? ha')] at htake
  subst htake
  exact ⟨rfl, List.cons.inj (List.append_cancel_left h)⟩

end Starts

/-- What is found from the end is the last item of its kind. -/
theorem find?_reverse_eq_some_iff {α : Type} {p : α → Bool} {items : List α} {a : α} :
    items.reverse.find? p = some a ↔
      ∃ front back, items = front ++ a :: back ∧ p a = true ∧ ∀ b ∈ back, p b = false := by
  rw [List.find?_eq_some_iff_append]
  constructor
  · rintro ⟨hp, back, front, hitems, hback⟩
    refine ⟨front.reverse, back.reverse, ?_, hp, fun b hb => ?_⟩
    · rw [← List.reverse_reverse items, hitems, List.reverse_append, List.reverse_cons, List.append_assoc]
      rfl
    · simpa using hback b (List.mem_reverse.mp hb)
  · rintro ⟨front, back, rfl, hp, hback⟩
    refine ⟨hp, back.reverse, front.reverse, ?_, fun b hb => ?_⟩
    · rw [List.reverse_append, List.reverse_cons, List.append_assoc]
      rfl
    · simpa using hback b (List.mem_reverse.mp hb)

/-! ### Items in order -/

/-- Of two items of a list whose items come in an order, one comes before the other. -/
theorem eq_or_rel_of_pairwise {α : Type} {R : α → α → Prop} {items : List α} (h : items.Pairwise R) {a b : α}
    (ha : a ∈ items) (hb : b ∈ items) : a = b ∨ R a b ∨ R b a := by
  induction h with
  | nil => cases ha
  | cons hfirst _ ih =>
    rcases List.mem_cons.mp ha with rfl | ha' <;> rcases List.mem_cons.mp hb with rfl | hb'
    · exact .inl rfl
    · exact .inr (.inl (hfirst b hb'))
    · exact .inr (.inr (hfirst a ha'))
    · exact ih ha' hb'

/-! ### Distinct items -/

section DistinctFrom

variable {α β : Type} [DecidableEq β] {key : α → β} {seen : List β} {items : List α}

theorem distinctFrom_sublist (key : α → β) (seen : List β) (items : List α) :
    (distinctFrom key seen items).Sublist items := by
  induction items generalizing seen with
  | nil => exact List.Sublist.refl _
  | cons a rest ih =>
    unfold distinctFrom
    split
    · exact (ih seen).cons a
    · exact (ih (key a :: seen)).cons_cons a

/-- What is kept of a start of the items is a start of what is kept of all. -/
theorem distinctFrom_append (key : α → β) (seen : List β) (front back : List α) :
    ∃ rest, distinctFrom key seen (front ++ back) = distinctFrom key seen front ++ rest ∧
      rest.Sublist back := by
  induction front generalizing seen with
  | nil => exact ⟨distinctFrom key seen back, rfl, distinctFrom_sublist key seen back⟩
  | cons a front ih =>
    rw [List.cons_append, distinctFrom, distinctFrom]
    split
    · exact ih seen
    · obtain ⟨rest, hrest, hsub⟩ := ih (key a :: seen)
      exact ⟨rest, by rw [hrest, List.cons_append], hsub⟩

theorem key_notMem_of_mem_distinctFrom {a : α} (h : a ∈ distinctFrom key seen items) :
    key a ∉ seen :=
  ((mem_keys_distinctFrom key seen items (key a)).mp (List.mem_map_of_mem h)).2

omit [DecidableEq β] in
/-- Items that come in the order of their keys still do so after a new key is put in front. -/
theorem pairwise_idxOf_cons [BEq β] [LawfulBEq β] {k : β} {keys : List β}
    (hne : ∀ b ∈ items, k ≠ key b)
    (h : items.Pairwise fun a b => keys.idxOf (key a) < keys.idxOf (key b)) :
    items.Pairwise fun a b => (k :: keys).idxOf (key a) < (k :: keys).idxOf (key b) := by
  refine h.imp_of_mem ?_
  intro a b ha hb hlt
  rw [List.idxOf_cons_ne _ (hne a ha), List.idxOf_cons_ne _ (hne b hb)]
  exact Nat.succ_lt_succ hlt

/-- The keys come in the order of their first occurrence. -/
theorem pairwise_idxOf_distinctFrom [BEq β] [LawfulBEq β] (key : α → β) (seen : List β)
    (items : List α) :
    (distinctFrom key seen items).Pairwise
      fun a b => (items.map key).idxOf (key a) < (items.map key).idxOf (key b) := by
  induction items generalizing seen with
  | nil => exact List.Pairwise.nil
  | cons a rest ih =>
    unfold distinctFrom
    split
    · rename_i hseen
      have hne : ∀ b ∈ distinctFrom key seen rest, key a ≠ key b := by
        intro b hb h
        exact key_notMem_of_mem_distinctFrom hb (h ▸ hseen)
      exact pairwise_idxOf_cons hne (ih seen)
    · have hne : ∀ b ∈ distinctFrom key (key a :: seen) rest, key a ≠ key b := by
        intro b hb h
        exact key_notMem_of_mem_distinctFrom hb (h ▸ List.mem_cons_self)
      refine List.pairwise_cons.mpr ⟨?_, pairwise_idxOf_cons hne (ih (key a :: seen))⟩
      intro b hb
      rw [List.map_cons, List.idxOf_cons_self, List.idxOf_cons_ne _ (hne b hb)]
      exact Nat.succ_pos _

/-- An item is kept iff its key is new and it is the first item with that key. -/
theorem mem_distinctFrom_iff {a : α} :
    a ∈ distinctFrom key seen items ↔
      key a ∉ seen ∧ items.find? (fun b => key b = key a) = some a := by
  induction items generalizing seen with
  | nil => simp [distinctFrom]
  | cons b rest ih =>
    unfold distinctFrom
    by_cases hkey : key b = key a
    · -- `b` settles the key of `a`, so nothing of that key is kept after it
      rw [List.find?_cons_of_pos (by exact decide_eq_true hkey), Option.some_inj, ← hkey]
      split
      · rename_i hseen
        rw [ih, ← hkey]
        exact ⟨fun h => absurd hseen h.1, fun h => absurd hseen h.1⟩
      · rename_i hnew
        rw [List.mem_cons, ih, ← hkey]
        constructor
        · rintro (rfl | ⟨hnot, -⟩)
          · exact ⟨hnew, rfl⟩
          · exact absurd List.mem_cons_self hnot
        · rintro ⟨-, rfl⟩
          exact .inl rfl
    · have hne : a ≠ b := fun h => hkey (h ▸ rfl)
      rw [List.find?_cons_of_neg (by rw [decide_eq_true_eq]; exact hkey)]
      split
      · exact ih
      · rw [List.mem_cons, or_iff_right hne, ih, List.mem_cons, or_iff_right (Ne.symm hkey)]

/-- Where no key comes twice, all items are kept. -/
theorem distinctFrom_eq_self (hnodup : (items.map key).Nodup) (hnew : ∀ a ∈ items, key a ∉ seen) :
    distinctFrom key seen items = items := by
  induction items generalizing seen with
  | nil => rfl
  | cons a rest ih =>
    obtain ⟨hnot, hnodup⟩ := List.nodup_cons.mp hnodup
    obtain ⟨ha, hnew⟩ := List.forall_mem_cons.mp hnew
    have hrest : ∀ b ∈ rest, key b ∉ key a :: seen := by
      intro b hb
      rw [List.mem_cons, not_or]
      exact ⟨fun h => hnot (h ▸ List.mem_map_of_mem hb), hnew b hb⟩
    rw [distinctFrom, if_neg ha, ih hnodup hrest]

/-- Where keys tell items apart, each item is kept. -/
theorem mem_distinctBy_iff_of_injective
    (hinjective : ∀ a ∈ items, ∀ b ∈ items, key a = key b → a = b) {a : α} :
    a ∈ distinctBy key items ↔ a ∈ items := by
  refine ⟨fun h => (distinctFrom_sublist key [] items).subset h, fun h => ?_⟩
  have hkey : key a ∈ (distinctBy key items).map key :=
    (mem_keys_distinctFrom key [] items (key a)).mpr ⟨List.mem_map_of_mem h, List.not_mem_nil⟩
  obtain ⟨b, hb, hsame⟩ := List.mem_map.mp hkey
  have hitem : b ∈ items := (distinctFrom_sublist key [] items).subset hb
  obtain rfl : b = a := hinjective b hitem a h hsame
  exact hb

/-- Of items in ascending order, the least one of each key is kept. -/
theorem distinctFrom_le {γ : Type} [Preorder γ] {f : α → γ}
    (hsorted : items.Pairwise fun a b => f a ≤ f b) {a b : α}
    (ha : a ∈ distinctFrom key seen items) (hb : b ∈ items) (hkey : key b = key a) : f a ≤ f b := by
  induction items generalizing seen with
  | nil => exact absurd hb List.not_mem_nil
  | cons c rest ih =>
    obtain ⟨hc, hrest⟩ := List.pairwise_cons.mp hsorted
    have hnew := key_notMem_of_mem_distinctFrom ha
    unfold distinctFrom at ha
    -- `b` stands first, or both are among the rest; nothing of the key of `c` is kept after `c`
    rcases List.mem_cons.mp hb with rfl | hb'
    · split at ha
      · rename_i hseen
        exact absurd (hkey ▸ hseen) hnew
      · rcases List.mem_cons.mp ha with rfl | ha
        · exact le_refl _
        · exact absurd (hkey ▸ List.mem_cons_self) (key_notMem_of_mem_distinctFrom ha)
    · split at ha
      · exact ih hrest ha hb'
      · rcases List.mem_cons.mp ha with rfl | ha
        · exact hc b hb'
        · exact ih hrest ha hb'

end DistinctFrom

/-- Where each step puts a key behind those that are there unless it is among them or left out, the steps put the
keys that are new, in their order. -/
theorem map_key_foldl {σ α β : Type} [DecidableEq β] (keys : σ → List β) (key : α → β) (leftOut : List β)
    {step : σ → α → σ}
    (hstep : ∀ table a, keys (step table a) =
      if key a ∈ leftOut ∨ key a ∈ keys table then keys table else keys table ++ [key a])
    (items : List α) (table : σ) {seen : List β} (hseen : ∀ k, k ∈ seen ↔ k ∈ leftOut ∨ k ∈ keys table) :
    keys (items.foldl step table) = keys table ++ distinctFrom id seen (items.map key) := by
  -- which keys are seen matters, not their order
  induction items generalizing table seen with
  | nil => exact (List.append_nil _).symm
  | cons a items ih =>
    have hadd := hstep table a
    rw [List.foldl_cons, List.map_cons, distinctFrom, id]
    by_cases h : key a ∈ seen
    · rw [if_pos ((hseen (key a)).mp h)] at hadd
      rw [if_pos h, ih (step table a) (by rw [hadd]; exact hseen), hadd]
    · rw [if_neg (mt (hseen (key a)).mpr h)] at hadd
      have hseen' : ∀ k, k ∈ key a :: seen ↔ k ∈ leftOut ∨ k ∈ keys (step table a) := by
        intro k
        rw [hadd, List.mem_cons, hseen, List.mem_append, List.mem_singleton]
        tauto
      rw [if_neg h, ih (step table a) hseen', hadd, List.append_assoc, List.singleton_append]

/-- The keys of a table are those of its entries, in the order of their first occurrence. -/
theorem map_key_tableOf {α β : Type} [DecidableEq α] (entries : List (α × β)) :
    (tableOf entries).map (·.1) = distinct (entries.map (·.1)) :=
  map_key_foldl (fun table : List (α × β) => table.map (·.1)) (·.1) []
    (fun table e => by simp only [map_key_putKey, List.not_mem_nil, false_or]) entries [] (by simp)

/-- A list holds the items of another, each once, in the order of their first occurrence. -/
structure IsEachOnce {α : Type} [DecidableEq α] (items kept : List α) : Prop where
  /-- It holds the same items. -/
  mem_iff : ∀ a, a ∈ kept ↔ a ∈ items
  /-- None comes twice. -/
  nodup : kept.Nodup
  /-- They are in the order of their first occurrence. -/
  ordered : kept.Pairwise fun a b => items.idxOf a < items.idxOf b

/-- Where nothing among the items is seen, each of them is kept once. -/
theorem distinctFrom_isEachOnce {α : Type} [DecidableEq α] {seen items : List α} (hnew : ∀ a ∈ items, a ∉ seen) :
    IsEachOnce items (distinctFrom id seen items) where
  mem_iff a := by
    have hmem := mem_keys_distinctFrom id seen items a
    rw [List.map_id, List.map_id] at hmem
    rw [hmem]
    exact and_iff_left_of_imp (hnew a)
  nodup := by
    have hnodup := nodup_distinctFrom id seen items
    rwa [List.map_id] at hnodup
  ordered := by
    have hordered := pairwise_idxOf_distinctFrom id seen items
    rwa [List.map_id] at hordered

theorem distinct_isEachOnce {α : Type} [DecidableEq α] (items : List α) :
    IsEachOnce items (distinct items) :=
  distinctFrom_isEachOnce fun _ _ => List.not_mem_nil

/-! ### First places -/

section FirstPlaces

variable {ι β : Type} [BEq β] [LawfulBEq β] {a b : β}

/-- Items that come in the order of their numbers stand in it. -/
theorem idxOf_lt_iff_of_pairwise {keys : List β} {number : β → Nat}
    (h : keys.Pairwise fun a b => number a < number b) {a b : β} (ha : a ∈ keys) (hb : b ∈ keys) :
    keys.idxOf a < keys.idxOf b ↔ number a < number b := by
  have hlt : ∀ {a b}, a ∈ keys → b ∈ keys → keys.idxOf a < keys.idxOf b → number a < number b := by
    intro a b ha hb hidx
    have hi := List.idxOf_lt_length_of_mem ha
    have hj := List.idxOf_lt_length_of_mem hb
    have hnumbers := List.pairwise_iff_getElem.mp h _ _ hi hj hidx
    rwa [List.getElem_idxOf, List.getElem_idxOf] at hnumbers
  refine ⟨hlt ha hb, fun hnumber => ?_⟩
  rcases Nat.lt_trichotomy (keys.idxOf a) (keys.idxOf b) with hidx | hidx | hidx
  · exact hidx
  · obtain rfl := (List.idxOf_inj ha).mp hidx
    exact absurd hnumber (Nat.lt_irrefl _)
  · exact absurd (hlt hb ha hidx) (Nat.lt_asymm hnumber)

/-- What only `a` yields stands where `a` does. -/
theorem idxOf_map_of_forall_eq {α : Type} [BEq α] [LawfulBEq α] {items : List α} (f : α → β) {a : α}
    (h : ∀ a' ∈ items, f a' = f a → a' = a) : (items.map f).idxOf (f a) = items.idxOf a := by
  induction items with
  | nil => rfl
  | cons a' rest ih =>
    obtain ⟨ha', hrest⟩ := List.forall_mem_cons.mp h
    rw [List.map_cons]
    by_cases heq : a' = a
    · rw [heq, List.idxOf_cons_self, List.idxOf_cons_self]
    · rw [List.idxOf_cons_ne _ heq, List.idxOf_cons_ne _ (mt ha' heq), ih hrest]

/-- Which of two items comes first in lists one after the other: the one that a list before holds, or of
two that the same list holds first, the one before the other there. -/
theorem idxOf_flatMap_lt_iff {f : ι → List β} {is : List ι} {p q : ι → Bool} {P : Prop}
    (ha : a ∈ is.flatMap f) (hp : ∀ i ∈ is, a ∈ f i ↔ p i = true) (hq : ∀ i ∈ is, b ∈ f i ↔ q i = true)
    (hP : ∀ i ∈ is, a ∈ f i → b ∈ f i → ((f i).idxOf a < (f i).idxOf b ↔ P)) :
    (is.flatMap f).idxOf a < (is.flatMap f).idxOf b ↔
      is.findIdx p < is.findIdx q ∨ is.findIdx p = is.findIdx q ∧ P := by
  induction is with
  | nil => exact absurd ha List.not_mem_nil
  | cons i is ih =>
    obtain ⟨hpi, hp⟩ := List.forall_mem_cons.mp hp
    obtain ⟨hqi, hq⟩ := List.forall_mem_cons.mp hq
    obtain ⟨hPi, hP⟩ := List.forall_mem_cons.mp hP
    rw [List.flatMap_cons, List.findIdx_cons, List.findIdx_cons]
    by_cases hai : a ∈ f i <;> by_cases hbi : b ∈ f i
    · simp [List.idxOf_append_of_mem, hai, hbi, hpi.mp hai, hqi.mp hbi, hPi hai hbi]
    · have hlt := List.idxOf_lt_length_of_mem hai
      have hqi : q i = false := Bool.eq_false_iff.mpr (mt hqi.mpr hbi)
      rw [List.idxOf_append_of_mem hai, List.idxOf_append_of_notMem hbi, hpi.mp hai, hqi, cond_true,
        cond_false]
      omega
    · have hlt := List.idxOf_lt_length_of_mem hbi
      have hpi : p i = false := Bool.eq_false_iff.mpr (mt hpi.mpr hai)
      rw [List.idxOf_append_of_notMem hai, List.idxOf_append_of_mem hbi, hpi, hqi.mp hbi, cond_true,
        cond_false]
      omega
    · have hpi : p i = false := Bool.eq_false_iff.mpr (mt hpi.mpr hai)
      have hqi : q i = false := Bool.eq_false_iff.mpr (mt hqi.mpr hbi)
      have hrest := ih ((List.mem_append.mp ha).resolve_left hai) hp hq hP
      rw [List.idxOf_append_of_notMem hai, List.idxOf_append_of_notMem hbi, Nat.add_lt_add_iff_left,
        hrest, hpi, hqi, cond_false, cond_false, Nat.add_lt_add_iff_right, Nat.add_right_cancel_iff]

end FirstPlaces

/-! ### Stretches -/

/-- From a position that is not negative on, a stretch ends a start of the items. -/
theorem stretch_eq {α : Type} (items : List α) {start stop : Int} (hstart : 0 ≤ start)
    (hstop : 0 ≤ stop) : stretch items start stop = (items.take stop.toNat).drop start.toNat := by
  have hclamp : ∀ {i : Int}, 0 ≤ i → clampPosition items.length i = min i.toNat items.length := by
    intro i hi
    rw [clampPosition, if_neg (Int.not_lt.mpr hi)]
  refine List.ext_getElem? fun j => ?_
  simp only [stretch, hclamp hstart, hclamp hstop, List.getElem?_take, List.getElem?_drop]
  by_cases hlength : start.toNat + j < items.length
  · rw [show min start.toNat items.length + j = start.toNat + j by omega]
    exact if_congr (by omega) rfl rfl
  · rw [List.getElem?_eq_none (by omega), List.getElem?_eq_none (by omega), ite_self, ite_self]

/-- It holds the items at the positions inside it. -/
theorem mem_stretch_iff {α : Type} {items : List α} {start stop : Int} (hstart : 0 ≤ start)
    (hstop : 0 ≤ stop) {a : α} :
    a ∈ stretch items start stop ↔ ∃ i : Nat, start ≤ i ∧ i < stop ∧ items[i]? = some a := by
  simp only [stretch_eq items hstart hstop, List.mem_iff_getElem?, List.getElem?_drop,
    List.getElem?_take, Option.ite_none_right_eq_some]
  constructor
  · rintro ⟨j, hlt, hj⟩
    exact ⟨_, by omega, by omega, hj⟩
  · rintro ⟨i, hle, hlt, hi⟩
    exact ⟨i - start.toNat, by omega, by rw [show start.toNat + (i - start.toNat) = i by omega, hi]⟩

/-- It depends on the items at these positions alone. -/
theorem stretch_congr {α : Type} {items items' : List α} {start stop : Int} (hstart : 0 ≤ start)
    (hstop : 0 ≤ stop) (h : ∀ i : Nat, start ≤ i → i < stop → items[i]? = items'[i]?) :
    stretch items start stop = stretch items' start stop := by
  rw [stretch_eq items hstart hstop, stretch_eq items' hstart hstop]
  refine List.ext_getElem? fun j => ?_
  rw [List.getElem?_drop, List.getElem?_drop, List.getElem?_take, List.getElem?_take]
  by_cases hlt : start.toNat + j < stop.toNat
  · rw [if_pos hlt, if_pos hlt]
    exact h _ (by omega) (by omega)
  · rw [if_neg hlt, if_neg hlt]

/-- From an item on, it is that item and a start of those behind it. -/
theorem stretch_append_cons {α : Type} (front : List α) (a : α) (back : List α) (n : Nat) :
    stretch (front ++ a :: back) front.length (front.length + n + 1 : Nat) = a :: back.take n := by
  rw [stretch_eq _ (Int.natCast_nonneg _) (Int.natCast_nonneg _), Int.toNat_natCast, Int.toNat_natCast,
    Nat.add_assoc, List.take_length_add_append, List.drop_left, List.take_succ_cons]

theorem stretch_map {α β : Type} (f : α → β) (items : List α) (start stop : Int) :
    stretch (items.map f) start stop = (stretch items start stop).map f := by
  simp only [stretch, List.length_map, List.map_drop, List.map_take]

/-! ### Places -/

section Places

variable {starts : List Int} {x : Int}

theorem placeBetween_le (starts : Array Int) (x : Int) {lo hi : Nat} (hle : lo ≤ hi) :
    placeBetween starts x lo hi ≤ hi := by
  fun_induction placeBetween starts x lo hi with
  | case1 lo hi hlt middle _ ih =>
    have hmiddle : middle ≤ hi := by omega
    exact Nat.le_trans (ih (by omega)) hmiddle
  | case2 lo hi hlt middle _ ih => exact ih (by omega)
  | case3 => exact hle

theorem placeOf_le (starts : List Int) (x : Int) : placeOf starts.toArray x ≤ starts.length :=
  placeBetween_le starts.toArray x (Nat.zero_le _)

/-- Halving keeps the numbers before `lo` not greater than `x`, and those from `hi` on greater. -/
theorem lt_placeBetween_iff (hsorted : starts.Pairwise (· ≤ ·)) {lo hi : Nat} (hhi : hi ≤ starts.length)
    (hbefore : ∀ (i : Nat) (h : i < starts.length), i < lo → starts[i] ≤ x)
    (hafter : ∀ (i : Nat) (h : i < starts.length), hi ≤ i → x < starts[i]) (hle : lo ≤ hi) (i : Nat)
    (hi' : i < starts.length) : i < placeBetween starts.toArray x lo hi ↔ starts[i] ≤ x := by
  fun_induction placeBetween starts.toArray x lo hi with
  | case1 lo hi hlt middle hx ih =>
    have hmiddle : middle < starts.length := by omega
    have hx' : x < starts[middle] := by simpa [Array.getD, hmiddle] using hx
    refine ih (by omega) hbefore (fun j hj hge => ?_) (by omega)
    exact Int.lt_of_lt_of_le hx' (hsorted.rel_get_of_le (a := ⟨middle, hmiddle⟩) (b := ⟨j, hj⟩) hge)
  | case2 lo hi hlt middle hx ih =>
    have hmiddle : middle < starts.length := by omega
    have hx' : starts[middle] ≤ x := by simpa [Array.getD, hmiddle] using hx
    refine ih hhi (fun j hj hlt' => ?_) hafter (by omega)
    have hle' : j ≤ middle := by omega
    exact Int.le_trans (hsorted.rel_get_of_le (a := ⟨j, hj⟩) (b := ⟨middle, hmiddle⟩) hle') hx'
  | case3 lo hi hge =>
    refine ⟨hbefore i hi', fun h => ?_⟩
    by_contra hnot
    exact absurd (hafter i hi' (by omega)) (Int.not_lt.mpr h)

/-- The place of a number is behind exactly those that are not greater. -/
theorem lt_placeOf_iff (hsorted : starts.Pairwise (· ≤ ·)) {i : Nat} (hi : i < starts.length) :
    i < placeOf starts.toArray x ↔ starts[i] ≤ x :=
  lt_placeBetween_iff hsorted (Nat.le_refl _) (fun _ _ h => absurd h (Nat.not_lt_zero _))
    (fun _ h hge => absurd h (Nat.not_lt.mpr hge)) (Nat.zero_le _) i hi

end Places

end Copyedit
