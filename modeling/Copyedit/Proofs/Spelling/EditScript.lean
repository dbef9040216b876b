import Copyedit.Spelling.Distance
import Mathlib.Data.List.Infix
import Mathlib.Order.Lattice.Nat

/-!
# Edit scripts

`leastCost a b` is the least cost of a script that makes `b` from `a`. It satisfies the equations by which
distances are computed, both at the starts of the texts (`leastCost_cons_cons`) and, because scripts can
be read backwards, at their ends (`leastCost_concat_concat`).  A detour over a third text costs no less
(`leastCost_triangle`).

What a script makes from the start of a text is a start of what it makes from all of it
(`EditScript.exists_start`).
-/

namespace Copyedit

namespace EditScript

/-! ### Making scripts -/

theorem refl : (a : Text) → EditScript a a 0
  | [] => nil
  | c :: a => keep c (refl a)

/-- A script can be undone at the same cost. -/
theorem symm {a b : Text} {n : Nat} (h : EditScript a b n) : EditScript b a n := by
  induction h with
  | nil => exact nil
  | keep c _ ih => exact keep c ih
  | delete c _ ih => exact insert c ih
  | insert c _ ih => exact delete c ih
  | substitute c d _ ih => exact substitute d c ih

theorem deleteAll : (a : Text) → EditScript a [] a.length
  | [] => nil
  | c :: a => delete c (deleteAll a)

/-- Two scripts, one after the other along the texts. -/
theorem append {a b a' b' : Text} {n n' : Nat} (h : EditScript a b n) (h' : EditScript a' b' n') :
    EditScript (a ++ a') (b ++ b') (n + n') := by
  induction h with
  | nil => simpa using h'
  | keep c _ ih => exact keep c ih
  | delete c _ ih =>
    rw [Nat.add_right_comm]
    exact delete c ih
  | insert c _ ih =>
    rw [Nat.add_right_comm]
    exact insert c ih
  | substitute c d _ ih =>
    rw [Nat.add_right_comm]
    exact substitute c d ih

/-- A script can be read backwards. -/
theorem reverse {a b : Text} {n : Nat} (h : EditScript a b n) :
    EditScript a.reverse b.reverse n := by
  induction h with
  | nil => exact nil
  | keep c _ ih => simpa using ih.append (keep c nil)
  | delete c _ ih => simpa using ih.append (delete c nil)
  | insert c _ ih => simpa using ih.append (insert c nil)
  | substitute c d _ ih => simpa using ih.append (substitute c d nil)

theorem reverse_iff {a b : Text} {n : Nat} :
    EditScript a.reverse b.reverse n ↔ EditScript a b n := by
  refine ⟨fun h => ?_, reverse⟩
  simpa using h.reverse

/-! ### What scripts do -/

/-- A script that costs nothing changes nothing. -/
theorem eq_of_zero {a b : Text} {n : Nat} (h : EditScript a b n) (hn : n = 0) : a = b := by
  induction h with
  | nil => rfl
  | keep c _ ih => rw [ih hn]
  | delete | insert | substitute => omega

/-- What a script leaves out of a text, it deletes. -/
theorem length_le {a b : Text} {n : Nat} (h : EditScript a b n) : a.length ≤ b.length + n := by
  induction h with
  | nil => exact Nat.le_refl _
  | keep | delete | insert | substitute =>
    simp only [List.length_cons]
    omega

/-- From nothing, nothing is made for free. -/
theorem exists_start_nil (b : Text) (n : Nat) : ∃ p m, p <+: b ∧ m ≤ n ∧ EditScript [] p m :=
  ⟨[], 0, List.nil_prefix, Nat.zero_le n, nil⟩

/-- A script makes a start of the result from a start of the text, at no greater cost. -/
theorem exists_start {a r b : Text} {n : Nat} (h : EditScript (a ++ r) b n) :
    ∃ p m, p <+: b ∧ m ≤ n ∧ EditScript a p m := by
  generalize hs : a ++ r = s at h
  -- the script is followed until `a` is used up, and cut there
  induction h generalizing a with
  | nil =>
    obtain ⟨rfl, -⟩ := List.append_eq_nil_iff.mp hs
    exact exists_start_nil [] 0
  | keep c h ih =>
    rcases a with - | ⟨x, a⟩
    · exact exists_start_nil _ _
    · obtain ⟨rfl, hr⟩ := List.cons.inj hs
      obtain ⟨p, m, hp, hm, script⟩ := ih hr
      exact ⟨x :: p, m, List.cons_prefix_cons.mpr ⟨rfl, hp⟩, hm, keep x script⟩
  | delete c h ih =>
    rcases a with - | ⟨x, a⟩
    · exact exists_start_nil _ _
    · obtain ⟨rfl, hr⟩ := List.cons.inj hs
      obtain ⟨p, m, hp, hm, script⟩ := ih hr
      exact ⟨p, m + 1, hp, Nat.succ_le_succ hm, delete x script⟩
  | insert c h ih =>
    obtain ⟨p, m, hp, hm, script⟩ := ih hs
    exact ⟨c :: p, m + 1, List.cons_prefix_cons.mpr ⟨rfl, hp⟩, Nat.succ_le_succ hm, insert c script⟩
  | substitute c d h ih =>
    rcases a with - | ⟨x, a⟩
    · exact exists_start_nil _ _
    · obtain ⟨rfl, hr⟩ := List.cons.inj hs
      obtain ⟨p, m, hp, hm, script⟩ := ih hr
      exact ⟨d :: p, m + 1, List.cons_prefix_cons.mpr ⟨rfl, hp⟩, Nat.succ_le_succ hm,
        substitute x d script⟩

end EditScript

/-! ### The least cost -/

/-- The least cost of a script that makes `b` from `a`. -/
noncomputable def leastCost (a b : Text) : Nat := sInf {n | EditScript a b n}

/-- There is a script of least cost. -/
theorem editScript_leastCost (a b : Text) : EditScript a b (leastCost a b) := by
  refine Nat.sInf_mem ⟨a.length + b.length, ?_⟩
  simpa using (EditScript.deleteAll a).append (EditScript.deleteAll b).symm

theorem EditScript.leastCost_le {a b : Text} {n : Nat} (h : EditScript a b n) : leastCost a b ≤ n :=
  Nat.sInf_le h

theorem leastCost_comm (a b : Text) : leastCost a b = leastCost b a :=
  Nat.le_antisymm (editScript_leastCost b a).symm.leastCost_le
    (editScript_leastCost a b).symm.leastCost_le

/-- Only a text itself costs nothing. -/
theorem leastCost_eq_zero_iff {a b : Text} : leastCost a b = 0 ↔ a = b := by
  refine ⟨(editScript_leastCost a b).eq_of_zero, ?_⟩
  rintro rfl
  exact Nat.le_zero.mp (EditScript.refl a).leastCost_le

theorem leastCost_nil_left (b : Text) : leastCost [] b = b.length := by
  refine Nat.le_antisymm (EditScript.deleteAll b).symm.leastCost_le ?_
  simpa using (editScript_leastCost [] b).symm.length_le

theorem leastCost_nil_right (a : Text) : leastCost a [] = a.length := by
  rw [leastCost_comm, leastCost_nil_left]

/-- The cheapest script either deletes the first character, inserts the first one of the result, or makes
the one from the other. -/
theorem leastCost_cons_cons (c d : Char) (a b : Text) :
    leastCost (c :: a) (d :: b) =
      min (min (leastCost a (d :: b) + 1) (leastCost (c :: a) b + 1))
        (leastCost a b + if d = c then 0 else 1) := by
  refine Nat.le_antisymm (Nat.le_min.mpr ⟨Nat.le_min.mpr ⟨?_, ?_⟩, ?_⟩) ?_
  · exact ((editScript_leastCost a (d :: b)).delete c).leastCost_le
  · exact ((editScript_leastCost (c :: a) b).insert d).leastCost_le
  · split_ifs with h
    · subst h
      exact ((editScript_leastCost a b).keep d).leastCost_le
    · exact ((editScript_leastCost a b).substitute c d).leastCost_le
  · have script := editScript_leastCost (c :: a) (d :: b)
    generalize leastCost (c :: a) (d :: b) = n at script ⊢
    cases script with
    | keep _ h =>
      have := h.leastCost_le
      rw [if_pos rfl]
      omega
    | delete _ h =>
      have := h.leastCost_le
      omega
    | insert _ h =>
      have := h.leastCost_le
      omega
    | substitute _ _ h =>
      have := h.leastCost_le
      split_ifs <;> omega

/-- A detour over another text costs no less. -/
theorem leastCost_triangle : (a b c : Text) → leastCost a c ≤ leastCost a b + leastCost b c
  | [], b, c => by
    have hlength := (editScript_leastCost b c).symm.length_le
    rwa [leastCost_nil_left, leastCost_nil_left]
  | x :: a, b, [] => by
    have hlength := (editScript_leastCost (x :: a) b).length_le
    rwa [leastCost_nil_right, leastCost_nil_right, Nat.add_comm]
  | x :: a, [], z :: c => by
    have script := (EditScript.deleteAll (x :: a)).append (EditScript.deleteAll (z :: c)).symm
    rw [List.append_nil, List.nil_append] at script
    rw [leastCost_nil_left, leastCost_nil_right]
    exact script.leastCost_le
  | x :: a, y :: b, z :: c => by
    -- whatever the scripts of the two ways begin with, a script over what they leave goes on from there
    have hdelete := leastCost_triangle a (y :: b) (z :: c)
    have hinsert := leastCost_triangle (x :: a) (y :: b) c
    have hundone := leastCost_triangle (x :: a) b (z :: c)
    have hreinserted := leastCost_triangle (x :: a) b c
    have hredeleted := leastCost_triangle a b (z :: c)
    have hsubstitute := leastCost_triangle a b c
    have hsame : (if z = x then 0 else 1) ≤ (if y = x then 0 else 1) + (if z = y then 0 else 1) := by
      split_ifs <;> simp_all
    have hac := leastCost_cons_cons x z a c
    have hab := leastCost_cons_cons x y a b
    have hbc := leastCost_cons_cons y z b c
    omega
termination_by a b c => a.length + b.length + c.length

theorem leastCost_reverse (a b : Text) : leastCost a.reverse b.reverse = leastCost a b := by
  simp only [leastCost, EditScript.reverse_iff]

/-- The cheapest script seen from the ends of the texts. -/
theorem leastCost_concat_concat (c d : Char) (a b : Text) :
    leastCost (a ++ [c]) (b ++ [d]) =
      min (min (leastCost a (b ++ [d]) + 1) (leastCost (a ++ [c]) b + 1))
        (leastCost a b + if d = c then 0 else 1) := by
  have h := leastCost_cons_cons c d a.reverse b.reverse
  rw [← leastCost_reverse a, ← leastCost_reverse (a ++ [c]), ← leastCost_reverse (a ++ [c]),
    ← leastCost_reverse a b]
  simpa using h

end Copyedit
