import Copyedit.Proofs.Spelling.EditScript

/-!
# Distances and least costs

The row of a text `a` against a word holds the least costs of making each beginning of the word from `a`
(`rowOf_eq`). Hence the distance between two texts is the least cost of making one from the other
(`distance_eq`), and no entry of the row of a longer text can be below the least entry of the row of its
beginning (`leastOf_rowOf_le`): what a bounded computation or a walk through a trie leaves out is too far.
So the bounded computation yields the least cost wherever that is within the bound
(`boundedDistance_eq_some_iff`), and neither of its tests is ever to blame (`boundedDistance_eq`).
-/

namespace Copyedit.Spelling

/-! ### Rows -/

/-- The least costs of making `start` and each longer beginning of `start ++ word` from a text. -/
noncomputable def costsFrom (a start word : Text) : List Nat :=
  word.inits.map fun p => leastCost a (start ++ p)

theorem costsFrom_nil (a start : Text) : costsFrom a start [] = [leastCost a start] := by
  simp [costsFrom]

theorem costsFrom_cons (a start : Text) (w : Char) (word : Text) :
    costsFrom a start (w :: word) = leastCost a start :: costsFrom a (start ++ [w]) word := by
  simp [costsFrom]

theorem costsFrom_eq_cons (a start word : Text) :
    costsFrom a start word = leastCost a start :: (costsFrom a start word).tail := by
  cases word with
  | nil => rw [costsFrom_nil, List.tail_cons]
  | cons w word => rw [costsFrom_cons, List.tail_cons]

theorem costsFrom_nil_left (start word : Text) :
    costsFrom [] start word = List.range' start.length (word.length + 1) := by
  induction word generalizing start with
  | nil => rw [costsFrom_nil, leastCost_nil_left, List.length_nil, List.range'_one]
  | cons w word ih =>
    rw [costsFrom_cons, leastCost_nil_left, ih, List.length_append, List.length_singleton,
      List.length_cons, ← List.range'_succ]

theorem fillRow_costsFrom (c : Char) (a start word : Text) :
    fillRow c (leastCost (a ++ [c]) start) word (costsFrom a start word) =
      (costsFrom (a ++ [c]) start word).tail := by
  induction word generalizing start with
  | nil => simp only [costsFrom_nil, fillRow, List.tail_cons]
  | cons w word ih =>
    have above := costsFrom_eq_cons a (start ++ [w]) word
    have here := costsFrom_eq_cons (a ++ [c]) (start ++ [w]) word
    rw [costsFrom_cons, costsFrom_cons, List.tail_cons, above, fillRow, ← above,
      ← leastCost_concat_concat, ih, ← here]

theorem nextRow_costsFrom (word : Text) (c : Char) (a : Text) :
    nextRow word c (costsFrom a [] word) = costsFrom (a ++ [c]) [] word := by
  have first : leastCost a [] + 1 = leastCost (a ++ [c]) [] := by
    rw [leastCost_nil_right, leastCost_nil_right, List.length_append, List.length_singleton]
  have row := costsFrom_eq_cons a [] word
  rw [row, nextRow, ← row, first, fillRow_costsFrom, ← costsFrom_eq_cons]

theorem rowOf_append (word a r : Text) :
    rowOf word (a ++ r) = r.foldl (fun row c => nextRow word c row) (rowOf word a) :=
  List.foldl_append

theorem rowOf_concat (word a : Text) (c : Char) :
    rowOf word (a ++ [c]) = nextRow word c (rowOf word a) := by
  rw [rowOf_append, List.foldl_cons, List.foldl_nil]

/-- The row of a text holds the least costs of making the beginnings of the word from it. -/
theorem rowOf_eq (word a : Text) : rowOf word a = costsFrom a [] word := by
  induction a using List.reverseRecOn with
  | nil => rw [costsFrom_nil_left, rowOf, List.foldl_nil, firstRow, List.range_eq_range', List.length_nil]
  | append_singleton a c ih => rw [rowOf_concat, ih, nextRow_costsFrom]

/-! ### Distances -/

theorem lastOf_costsFrom (a start word : Text) :
    lastOf (costsFrom a start word) = leastCost a (start ++ word) := by
  induction word generalizing start with
  | nil => simp [costsFrom_nil, lastOf]
  | cons w word ih =>
    have h := ih (start ++ [w])
    rw [costsFrom_eq_cons] at h
    rw [costsFrom_cons, costsFrom_eq_cons]
    simpa [lastOf] using h

/-- The last entry of the row of a text is the least cost of making the word from it. -/
theorem lastOf_rowOf (word a : Text) : lastOf (rowOf word a) = leastCost a word := by
  rw [rowOf_eq, lastOf_costsFrom, List.nil_append]

/-- The distance between two texts is the least cost of making one from the other. -/
theorem distance_eq (a b : Text) : distance a b = leastCost a b := by
  unfold distance
  split_ifs
  · rw [lastOf_rowOf, leastCost_comm]
  · rw [lastOf_rowOf]

/-! ### Least entries -/

theorem leastOf_le {row : List Nat} {n : Nat} (h : n ∈ row) : leastOf row ≤ n := by
  unfold leastOf
  cases hm : row.min? with
  | none => simp_all
  | some m => exact (List.min?_eq_some_iff.mp hm).2 n h

/-- An extension of a text is no nearer to the word than the least entry of the row of the text. -/
theorem leastOf_rowOf_le (word a r : Text) : leastOf (rowOf word a) ≤ leastCost (a ++ r) word := by
  obtain ⟨p, m, hp, hm, script⟩ := (editScript_leastCost (a ++ r) word).exists_start
  have entry : leastCost a p ∈ rowOf word a := by
    rw [rowOf_eq]
    exact List.mem_map.mpr ⟨p, (List.mem_inits p word).mpr hp, rfl⟩
  calc leastOf (rowOf word a) ≤ leastCost a p := leastOf_le entry
    _ ≤ m := script.leastCost_le
    _ ≤ leastCost (a ++ r) word := hm

/-! ### Bounded computations -/

/-- A run through the rows of the rest of a text ends in the row of all of it, or the text is too far. -/
theorem boundedRows_rowOf (word : Text) (bound : Nat) (a r : Text) :
    boundedRows word bound r (rowOf word a) = some (rowOf word (a ++ r)) ∨
      boundedRows word bound r (rowOf word a) = none ∧ bound < leastCost (a ++ r) word := by
  induction r generalizing a with
  | nil =>
    rw [List.append_nil]
    exact .inl rfl
  | cons c r ih =>
    have hrest := ih (a ++ [c])
    rw [List.append_assoc, List.singleton_append, rowOf_concat] at hrest
    rw [boundedRows]
    split_ifs with hpast
    · have hleast := leastOf_rowOf_le word (a ++ [c]) r
      rw [List.append_assoc, List.singleton_append, rowOf_concat] at hleast
      exact .inr ⟨rfl, Nat.lt_of_lt_of_le hpast hleast⟩
    · exact hrest

/-- Texts are at least as far apart as their lengths. -/
theorem natAbs_length_sub_le (a b : Text) : ((a.length : Int) - b.length).natAbs ≤ leastCost a b := by
  have hle := (editScript_leastCost a b).length_le
  have hge := (editScript_leastCost a b).symm.length_le
  omega

/-- The bounded computation yields the least cost, if that is within the bound. -/
theorem boundedDistance_eq_some_iff {a b : Text} {bound : Int} {n : Nat} :
    boundedDistance a b bound = some n ↔ leastCost a b = n ∧ (n : Int) ≤ bound := by
  have hlength := natAbs_length_sub_le a b
  have hrows := boundedRows_rowOf b bound.toNat [] a
  rw [List.nil_append, show rowOf b [] = firstRow b from rfl] at hrows
  unfold boundedDistance
  split_ifs with hfar
  · simp only [false_iff]
    omega
  · rcases hrows with hrows | ⟨hrows, hpast⟩
    · rw [hrows]
      simp only [lastOf_rowOf, Option.ite_none_right_eq_some, Option.some_inj]
      constructor
      · rintro ⟨hle, rfl⟩
        exact ⟨rfl, hle⟩
      · rintro ⟨rfl, hle⟩
        exact ⟨hle, rfl⟩
    · rw [hrows]
      simp only [reduceCtorEq, false_iff]
      omega

/-! ### Main statement -/

/-- **Bounded distances.**  The bounded computation yields the distance if that is within the bound, and
nothing otherwise.  What its tests compare with the bound is never greater than the distance, so they turn
away no pair within it: neither the difference of the lengths is, nor the least entry of the row of as many
characters as have been read. -/
theorem boundedDistance_eq (a b : Text) (bound : Int) :
    boundedDistance a b bound =
        (if (distance a b : Int) ≤ bound then some (distance a b) else none) ∧
      ((a.length : Int) - b.length).natAbs ≤ distance a b ∧
      ∀ n, leastOf (rowOf b (a.take n)) ≤ distance a b := by
  rw [distance_eq]
  refine ⟨?_, natAbs_length_sub_le a b, fun n => ?_⟩
  · split_ifs with hle
    · exact boundedDistance_eq_some_iff.mpr ⟨rfl, hle⟩
    · refine Option.eq_none_iff_forall_ne_some.mpr fun n hn => hle ?_
      obtain ⟨rfl, hwithin⟩ := boundedDistance_eq_some_iff.mp hn
      exact hwithin
  · have hrow := leastOf_rowOf_le b (a.take n) (a.drop n)
    rwa [List.take_append_drop] at hrow

/-- No beginning of "mother" is within two edits of "kitt", so the rest of "kitten" is not read. -/
example : boundedRows "mother".toList 2 "kitten".toList (firstRow "mother".toList) = none := by decide

end Copyedit.Spelling
