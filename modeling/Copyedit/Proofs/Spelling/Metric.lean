import Copyedit.Proofs.Spelling.Distance
import Copyedit.Proofs.Spelling.SingleEdit
import Mathlib.Order.Bounds.Defs

/-!
# Distances as numbers of edits

A text is made from another by single edits, one after another, wherever in the text they are (`Edits`).
A script is one way to do so, with an edit for each character that it does not keep (`EditScript.edits`).
No other way is shorter, though it may edit again what it has put in: each single edit costs one, and
the cost of a detour is no less (`Edits.leastCost_le`).

Hence the distance between two texts is the least number of edits that make one from the other, and it is a
metric (`distance_isLeast`).
-/

namespace Copyedit

/-- `Edits n a b`: the text `b` is made from `a` by `n` single edits, one after another, with any letters. -/
inductive Edits : Nat → Text → Text → Prop where
  /-- Nothing is done. -/
  | refl (a : Text) : Edits 0 a a
  /-- A single edit comes first. -/
  | step {letters : List Char} {a m b : Text} {n : Nat} :
      SingleEdit letters a m → Edits n m b → Edits (n + 1) a b

variable {a b : Text} {n : Nat}

/-- What a script does can be done by as many edits as it costs. -/
theorem EditScript.edits (h : EditScript a b n) : Edits n a b := by
  induction n generalizing a with
  | zero =>
    obtain rfl := h.eq_of_zero rfl
    exact .refl a
  | succ n ih =>
    obtain ⟨m, hedit, hrest⟩ := h.exists_singleEdit (Nat.succ_ne_zero n) fun _ hc => hc
    exact .step hedit (ih hrest)

/-- Edits are no fewer than what the cheapest script costs. -/
theorem Edits.leastCost_le (h : Edits n a b) : leastCost a b ≤ n := by
  induction h with
  | refl a => exact (EditScript.refl a).leastCost_le
  | @step _ a m b n hedit _ ih =>
    calc leastCost a b ≤ leastCost a m + leastCost m b := leastCost_triangle a m b
      _ ≤ 1 + n := Nat.add_le_add hedit.editScript.leastCost_le ih
      _ = n + 1 := Nat.add_comm 1 n

theorem isLeast_leastCost (a b : Text) : IsLeast {n | Edits n a b} (leastCost a b) :=
  ⟨(editScript_leastCost a b).edits, fun _ h => h.leastCost_le⟩

namespace Spelling

/-- **Distances.**  The distance between two texts is the least number of single-character insertions,
deletions and substitutions that turn one into the other.  Only a text itself is at no distance, the distance
is the same both ways, and a detour over another text is no shorter. -/
theorem distance_isLeast (a b : Text) :
    IsLeast {n | Edits n a b} (distance a b) ∧ (distance a b = 0 ↔ a = b) ∧
      distance a b = distance b a ∧ ∀ c, distance a c ≤ distance a b + distance b c := by
  simp only [distance_eq]
  exact ⟨isLeast_leastCost a b, leastCost_eq_zero_iff, leastCost_comm a b, leastCost_triangle a b⟩

/-- Two characters are replaced and one is inserted. -/
example : distance "kitten".toList "sitting".toList = 3 := by decide

end Spelling

end Copyedit
