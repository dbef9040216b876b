/-!
# Sets of code points

A property of characters covers long stretches of code points. A `CodeSet` lists, in increasing
order, the points at which membership changes, starting outside the set. Main statements: nothing
below the first point is a member, and passing a point flips membership.
-/

namespace Copyedit

/-- A set of code points, given by the increasing list of points where membership changes. -/
structure CodeSet where
  /-- The points where membership changes, in increasing order. -/
  bounds : List Nat

namespace CodeSet

/-- The parity of the number of bounds up to `n`, for an increasing list. -/
def flipped : List Nat → Nat → Bool
  | [], _ => false
  | b :: rest, n => if n < b then false else !(flipped rest n)

/-- `s.contains n`: the code point `n` is in the set. -/
def contains (s : CodeSet) (n : Nat) : Bool := flipped s.bounds n

theorem flipped_nil (n : Nat) : flipped [] n = false := rfl

theorem flipped_cons_of_lt {b n : Nat} (rest : List Nat) (h : n < b) :
    flipped (b :: rest) n = false := by simp [flipped, h]

theorem flipped_cons_of_le {b n : Nat} (rest : List Nat) (h : b ≤ n) :
    flipped (b :: rest) n = !(flipped rest n) := by
  simp [flipped, Nat.not_lt.mpr h]

end CodeSet

/-- Every `step`-th code point from `first` to `last`. -/
structure CodeRun where
  /-- The first member. -/
  first : Nat
  /-- The last member. -/
  last : Nat
  /-- The distance between neighbours. -/
  step : Nat

/-- `r.contains n`: the code point `n` is a member of the run. -/
def CodeRun.contains (r : CodeRun) (n : Nat) : Bool :=
  r.first ≤ n && n ≤ r.last && (n - r.first) % r.step == 0

/-- Whether a member of the run lies between two code points. -/
def CodeRun.meets (r : CodeRun) (first last : Nat) : Bool :=
  let skipped := (first - r.first + r.step - 1) / r.step
  let member := r.first + skipped * r.step
  member ≤ r.last && member ≤ last

end Copyedit
