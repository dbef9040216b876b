/-!
# Sequences

What the library shares on lists: tables whose keys keep the order in which they first came, the first
items of each key, a stretch between two positions that may count from the end, and the place of a number
among ascending ones.
-/

namespace Copyedit

/-! ### Tables -/

/-- Puts a value under a key; a key that is there keeps its place. -/
def putKey {α β : Type} [DecidableEq α] (table : List (α × β)) (key : α) (value : β) :
    List (α × β) :=
  match table with
  | [] => [(key, value)]
  | e :: rest => if e.1 = key then (e.1, value) :: rest else e :: putKey rest key value

/-- A table with the given entries; a repeated key keeps its first place and takes its last value. -/
def tableOf {α β : Type} [DecidableEq α] (entries : List (α × β)) : List (α × β) :=
  entries.foldl (fun table e => putKey table e.1 e.2) []

theorem lookup_cons_eq_ite {α β : Type} [DecidableEq α] [BEq α] [LawfulBEq α] (e : α × β)
    (rest : List (α × β)) (k : α) :
    (e :: rest).lookup k = if k = e.1 then some e.2 else rest.lookup k := by
  rw [List.lookup_cons]
  by_cases h : k = e.1
  · rw [beq_iff_eq.mpr h, if_pos h]
  · rw [beq_eq_false_iff_ne.mpr h, if_neg h]

theorem lookup_putKey {α β : Type} [DecidableEq α] [BEq α] [LawfulBEq α] (table : List (α × β))
    (key k : α) (value : β) :
    (putKey table key value).lookup k = if k = key then some value else table.lookup k := by
  induction table with
  | nil => rw [putKey, lookup_cons_eq_ite]
  | cons e rest ih =>
    unfold putKey
    by_cases h : e.1 = key
    · subst h
      rw [if_pos rfl, lookup_cons_eq_ite, lookup_cons_eq_ite]
      by_cases hk : k = e.1 <;> simp [hk]
    · rw [if_neg h, lookup_cons_eq_ite, lookup_cons_eq_ite, ih]
      by_cases hk : k = e.1
      · simp [hk, h]
      · simp [hk]

theorem mem_keys_putKey {α β : Type} [DecidableEq α] (table : List (α × β)) (key k : α) (value : β) :
    k ∈ (putKey table key value).map (·.1) ↔ k = key ∨ k ∈ table.map (·.1) := by
  induction table with
  | nil => simp [putKey]
  | cons e rest ih =>
    unfold putKey
    split
    · rename_i h
      simp [← h]
    · simp only [List.map_cons, List.mem_cons, ih]
      grind

/-- Where no key comes twice, none does after a value is put under one. -/
theorem nodup_keys_putKey {α β : Type} [DecidableEq α] {table : List (α × β)}
    (h : (table.map (·.1)).Nodup) (key : α) (value : β) :
    ((putKey table key value).map (·.1)).Nodup := by
  induction table with
  | nil => simp [putKey]
  | cons e rest ih =>
    have ⟨hnew, hrest⟩ := List.nodup_cons.mp h
    unfold putKey
    split
    · exact h
    · rename_i hne
      rw [List.map_cons, List.nodup_cons, mem_keys_putKey]
      exact ⟨fun hkey => hkey.elim hne hnew, ih hrest⟩

/-! ### Distinct items -/

/-- The items whose key is new: neither among `seen` nor that of an earlier item. -/
def distinctFrom {α β : Type} [DecidableEq β] (key : α → β) (seen : List β) : List α → List α
  | [] => []
  | a :: rest =>
    if key a ∈ seen then distinctFrom key seen rest
    else a :: distinctFrom key (key a :: seen) rest

/-- The first item of each key. -/
def distinctBy {α β : Type} [DecidableEq β] (key : α → β) (items : List α) : List α :=
  distinctFrom key [] items

/-- The items without repetitions. -/
def distinct {α : Type} [DecidableEq α] (items : List α) : List α := distinctBy id items

theorem mem_keys_distinctFrom {α β : Type} [DecidableEq β] (key : α → β) (seen : List β)
    (items : List α) (k : β) :
    k ∈ (distinctFrom key seen items).map key ↔ k ∈ items.map key ∧ k ∉ seen := by
  induction items generalizing seen with
  | nil => simp [distinctFrom]
  | cons a rest ih =>
    unfold distinctFrom
    split
    · rw [ih]
      grind
    · simp only [List.map_cons, List.mem_cons, ih]
      grind

/-- No key comes twice. -/
theorem nodup_distinctFrom {α β : Type} [DecidableEq β] (key : α → β) (seen : List β)
    (items : List α) : ((distinctFrom key seen items).map key).Nodup := by
  induction items generalizing seen with
  | nil => simp [distinctFrom]
  | cons a rest ih =>
    unfold distinctFrom
    split
    · exact ih seen
    · simp only [List.map_cons, List.nodup_cons]
      refine ⟨?_, ih _⟩
      rw [mem_keys_distinctFrom]
      simp

/-! ### Stretches -/

/-- The place that a position names in a list of `n` items: a negative one counts from the end, and one
past an end names that end. -/
def clampPosition (n : Nat) (i : Int) : Nat :=
  if i < 0 then (i + n).toNat else min i.toNat n

/-- The items from one position up to another. -/
def stretch {α : Type} (items : List α) (start stop : Int) : List α :=
  let first := clampPosition items.length start
  (items.drop first).take (clampPosition items.length stop - first)

/-! ### Places -/

/-- The place after the numbers up to `x`, if it lies between `lo` and `hi`, by halving. -/
def placeBetween (starts : Array Int) (x : Int) (lo hi : Nat) : Nat :=
  if h : lo < hi then
    let middle := (lo + hi) / 2
    if x < starts.getD middle 0 then placeBetween starts x lo middle
    else placeBetween starts x (middle + 1) hi
  else lo
termination_by hi - lo

/-- The place of a number among ascending ones: after those that are not greater. -/
def placeOf (starts : Array Int) (x : Int) : Nat := placeBetween starts x 0 starts.size

end Copyedit
