import Copyedit.Proofs.Characters
import Copyedit.Proofs.Sequence
import Copyedit.Text.Letters
import Copyedit.Text.NormalForm
import Mathlib.Data.List.Basic
import Mathlib.Data.List.Pairwise

/-!
# Letters in composed form

Composition neither makes a letter where there is none nor loses the last one
(`Text.any_isLetter_compose`).  A character is a letter iff one of its parts is, where it is taken apart
(`any_decomposeOnce?`), and a composite is one iff one of the two characters in it is
(`isLetterCode_of_composePair?`).  In between, marks change places only (`canonicalOrder_perm`).

For composites in the tables this is checked entry by entry.  To look up each of some five thousand
characters in the list of the letters would take long, so the bounds of the letters are arranged for
halving (`BoundTree.contains_build`).
-/

namespace Copyedit

/-! ### Bounds -/

namespace CodeSet

/-- Two numbers with no bound between them are on the same side of all. -/
theorem flipped_congr {bounds : List Nat} {m n : Nat} (h : ∀ b ∈ bounds, m < b ↔ n < b) :
    flipped bounds m = flipped bounds n := by
  induction bounds with
  | nil => rfl
  | cons b rest ih =>
    obtain ⟨hb, hrest⟩ := List.forall_mem_cons.mp h
    rw [flipped, flipped, ih hrest, ite_cond_congr (propext hb)]

/-- Nothing changes over a range without bounds. -/
theorem flipped_of_range {bounds : List Nat} {first last n : Nat}
    (h : ∀ b ∈ bounds, b ≤ first ∨ last < b) (hfirst : first ≤ n) (hlast : n ≤ last) :
    flipped bounds n = flipped bounds first := by
  refine flipped_congr fun b hb => ?_
  have hapart := h b hb
  omega

theorem flipped_append_of_lt {b n : Nat} (front after : List Nat) (hn : n < b) :
    flipped (front ++ b :: after) n = flipped front n := by
  induction front with
  | nil => exact flipped_cons_of_lt after hn
  | cons a front ih => rw [List.cons_append, flipped, flipped, ih]

theorem flipped_append_of_le {b n : Nat} {front after : List Nat}
    (hsorted : (front ++ b :: after).Pairwise (· < ·)) (hn : b ≤ n) :
    flipped (front ++ b :: after) n = xor (front.length % 2 == 0) (flipped after n) := by
  induction front with
  | nil => simp [flipped_cons_of_le after hn]
  | cons a front ih =>
    obtain ⟨ha, hsorted⟩ := List.pairwise_cons.mp hsorted
    have hlt : a < b := ha b List.mem_append_cons_self
    rw [List.cons_append, flipped_cons_of_le _ (by omega), ih hsorted, List.length_cons]
    rcases Nat.mod_two_eq_zero_or_one front.length with hparity | hparity
    · simp [hparity, Nat.add_mod]
    · simp [hparity, Nat.add_mod]

end CodeSet

/-- Bounds arranged for halving. -/
inductive BoundTree where
  /-- A stretch of bounds, and whether the numbers before it belong to the set. -/
  | leaf (inside : Bool) (bounds : List Nat)
  /-- A bound with what is before and after it. -/
  | node (bound : Nat) (before after : BoundTree)

namespace BoundTree

/-- Whether a number belongs to the set. -/
def contains : BoundTree → Nat → Bool
  | leaf inside bounds, n => xor inside (CodeSet.flipped bounds n)
  | node b before after, n => bif n.blt b then before.contains n else after.contains n

/-- Arranges bounds by halving them at most `depth` times. -/
def build : Nat → Bool → List Nat → BoundTree
  | 0, inside, bounds => leaf inside bounds
  | depth + 1, inside, bounds =>
    match bounds.drop (bounds.length / 2) with
    | [] => leaf inside bounds
    | b :: after =>
      node b (build depth inside (bounds.take (bounds.length / 2)))
        (build depth (xor inside ((bounds.take (bounds.length / 2)).length % 2 == 0)) after)

/-- Halving finds what walking along the bounds finds. -/
theorem contains_build (depth : Nat) (inside : Bool) {bounds : List Nat}
    (hsorted : bounds.Pairwise (· < ·)) (n : Nat) :
    (build depth inside bounds).contains n = xor inside (CodeSet.flipped bounds n) := by
  induction depth generalizing inside bounds with
  | zero => rfl
  | succ depth ih =>
    unfold build
    split
    · rfl
    · rename_i b after hdrop
      have hsplit := List.take_append_drop (bounds.length / 2) bounds
      rw [hdrop] at hsplit
      generalize bounds.take (bounds.length / 2) = front at hsplit ⊢
      subst hsplit
      obtain ⟨hfront, hafter, -⟩ := List.pairwise_append.mp hsorted
      rw [contains, ih _ hfront, ih _ (List.pairwise_cons.mp hafter).2]
      by_cases hn : n < b
      · rw [CodeSet.flipped_append_of_lt front after hn, Nat.blt_eq.mpr hn, cond_true]
      · have hle : b ≤ n := Nat.le_of_not_lt hn
        have hblt : n.blt b = false := by
          rw [← Bool.not_eq_true, Nat.blt_eq]
          exact hn
        rw [CodeSet.flipped_append_of_le hsorted hle, hblt, cond_false, Bool.xor_assoc]

end BoundTree

/-! ### Letters -/

/-- The bounds of the letters beyond ASCII. -/
def letterTree : BoundTree := .build 11 false letterBounds

/-- Whether the character with a number is a letter; a number without a character is none. -/
def isLetterCode (n : Nat) : Bool :=
  bif n.blt 128 then Nat.ble 97 n && n.ble 122 || Nat.ble 65 n && n.ble 90 else letterTree.contains n

theorem letterTree_contains (n : Nat) : letterTree.contains n = CodeSet.flipped letterBounds n := by
  have hsorted : letterBounds.Pairwise (· < ·) :=
    List.isChain_iff_pairwise.mp (by decide +kernel)
  rw [letterTree, BoundTree.contains_build 11 false hsorted, Bool.false_xor]

theorem isLetterCode_of_le {n : Nat} (h : 128 ≤ n) :
    isLetterCode n = CodeSet.flipped letterBounds n := by
  have hblt : n.blt 128 = false := by
    rw [← Bool.not_eq_true, Nat.blt_eq]
    exact Nat.not_lt.mpr h
  rw [isLetterCode, hblt, cond_false, letterTree_contains]

theorem isLetter_eq (c : Char) : isLetter c = isLetterCode c.toNat := by
  by_cases h : c.toNat < 128
  · exact forall_isAscii (P := fun c => isLetter c = isLetterCode c.toNat) (by decide +kernel) c
      (decide_eq_true h)
  · rw [isLetter, if_neg h, isLetterCode_of_le (Nat.le_of_not_lt h)]
    rfl

/-- From the first number of a range beyond ASCII without bounds on, all are letters or none is. -/
theorem isLetterCode_of_range {first last n : Nat} (hascii : 128 ≤ first)
    (h : ∀ b ∈ letterBounds, b ≤ first ∨ last < b) (hfirst : first ≤ n) (hlast : n ≤ last) :
    isLetterCode n = isLetterCode first := by
  rw [isLetterCode_of_le (Nat.le_trans hascii hfirst), isLetterCode_of_le hascii,
    CodeSet.flipped_of_range h hfirst hlast]

theorem isLetter_ofNat (n : Nat) : isLetter (Char.ofNat n) = isLetterCode n := by
  by_cases hvalid : n.isValidChar
  · rw [isLetter_eq, Char.ofNat, dif_pos hvalid]
    rfl
  · have hnone : isLetter (Char.ofNat n) = false := by
      rw [Char.ofNat, dif_neg hvalid]
      decide
    have hrange : 0xd800 ≤ n ∧ n ≤ 0xdfff ∨ 0x110000 ≤ n := by
      unfold Nat.isValidChar at hvalid
      omega
    rw [hnone]
    rcases hrange with ⟨hfirst, hlast⟩ | hfirst
    · rw [isLetterCode_of_range (by decide) (by decide +kernel) hfirst hlast]
      decide +kernel
    · have hall : ∀ b ∈ letterBounds, b ≤ 0x110000 := by decide +kernel
      rw [isLetterCode_of_range (by decide) (fun b hb => .inl (hall b hb)) hfirst (Nat.le_refl n)]
      decide +kernel

/-! ### Syllable blocks -/

namespace Hangul

theorem isLetterCode_syllable {n : Nat} (h : syllableBase ≤ n ∧ n < syllableBase + syllableCount) :
    isLetterCode n = true := by
  have hlast : n ≤ 0xd7a3 := Nat.le_of_lt_succ h.2
  rw [isLetterCode_of_range (by decide) (by decide +kernel) h.1 hlast]
  decide +kernel

theorem isLetterCode_lead {n : Nat} (h : leadBase ≤ n ∧ n < leadBase + leadCount) :
    isLetterCode n = true := by
  have hlast : n ≤ 0x1112 := Nat.le_of_lt_succ h.2
  rw [isLetterCode_of_range (by decide) (by decide +kernel) h.1 hlast]
  decide +kernel

/-- A syllable block is a letter, and so is its leading consonant. -/
theorem any_decompose? {n : Nat} {parts : List Nat} (h : decompose? n = some parts) :
    parts.any isLetterCode = isLetterCode n := by
  unfold decompose? at h
  split at h
  · rename_i hrange
    rw [Bool.and_eq_true, decide_eq_true_eq, decide_eq_true_eq] at hrange
    have hlead : isLetterCode (leadBase + (n - syllableBase) / (vowelCount * tailCount)) = true := by
      refine isLetterCode_lead ⟨Nat.le_add_right _ _, ?_⟩
      simp only [syllableBase, syllableCount, leadBase, leadCount, vowelCount, tailCount] at hrange ⊢
      omega
    obtain rfl := Option.some.inj h
    rw [isLetterCode_syllable hrange]
    split <;> rw [List.any_cons, hlead, Bool.true_or]
  · cases h

/-- What makes a syllable block starts with a letter. -/
theorem isLetterCode_of_compose? {a b n : Nat} (h : compose? a b = some n) :
    isLetterCode n = (isLetterCode a || isLetterCode b) := by
  unfold compose? at h
  split at h
  · rename_i hrange
    simp only [Bool.and_eq_true, decide_eq_true_eq] at hrange
    have hlead : isLetterCode a = true := isLetterCode_lead hrange.1.1
    obtain rfl := Option.some.inj h
    rw [hlead, Bool.true_or]
    refine isLetterCode_syllable ?_
    simp only [syllableBase, syllableCount, leadBase, leadCount, vowelBase, vowelCount, tailCount]
      at hrange ⊢
    omega
  · split at h
    · rename_i hrange
      simp only [Bool.and_eq_true, decide_eq_true_eq, beq_iff_eq] at hrange
      have hopen : isLetterCode a = true := isLetterCode_syllable hrange.1.1.1
      obtain rfl := Option.some.inj h
      rw [hopen, Bool.true_or]
      refine isLetterCode_syllable ?_
      simp only [syllableBase, syllableCount, leadCount, vowelCount, tailBase, tailCount] at hrange ⊢
      omega
    · cases h

end Hangul

/-! ### Taking apart -/

/-- A composite is a letter iff one of the two characters in it is. -/
theorem isLetterCode_composites :
    ∀ r ∈ composites, isLetterCode r.1 = (isLetterCode r.2.1 || isLetterCode r.2.2) := by
  decide +kernel

theorem any_oneWay : ∀ r ∈ oneWay, r.2.any isLetterCode = isLetterCode r.1 := by
  decide +kernel

/-- A character that is taken apart is a letter iff one of its parts is. -/
theorem any_decomposeOnce? {n : Nat} {parts : List Nat} (h : decomposeOnce? n = some parts) :
    parts.any isLetterCode = isLetterCode n := by
  unfold decomposeOnce? at h
  split at h
  · cases h
  · split at h
    · rename_i r hr
      obtain rfl := Option.some.inj h
      have hkey : r.1 = n := by simpa using List.find?_some hr
      rw [← hkey, isLetterCode_composites r (List.mem_of_find?_eq_some hr)]
      simp
    · split at h
      · rename_i parts' hparts
        obtain rfl := Option.some.inj h
        exact any_oneWay _ (mem_of_lookup_eq_some hparts)
      · exact Hangul.any_decompose? h

theorem any_decomposeFully (depth n : Nat) :
    (decomposeFully depth n).any isLetterCode = isLetterCode n := by
  induction depth generalizing n with
  | zero => simp [decomposeFully]
  | succ depth ih =>
    unfold decomposeFully
    split
    · simp
    · rename_i parts hparts
      rw [List.any_flatMap, ← any_decomposeOnce? hparts]
      simp only [ih]

/-! ### Marks -/

theorem insertMark_perm (m : Nat × Nat) (marks : List (Nat × Nat)) :
    (insertMark m marks).Perm (m :: marks) := by
  induction marks with
  | nil => exact List.Perm.refl _
  | cons x rest ih =>
    unfold insertMark
    split
    · exact (ih.cons x).trans (List.Perm.swap m x rest)
    · exact List.Perm.refl _

/-- Putting marks in order moves characters with their classes. -/
theorem canonicalOrder_perm (codes : List Nat) :
    (canonicalOrder codes).Perm (codes.map fun n => (combiningClass n, n)) := by
  have hinto : ∀ seen, (codes.foldl orderInto seen).Perm
      ((codes.map fun n => (combiningClass n, n)).reverse ++ seen) := by
    induction codes with
    | nil => exact fun seen => List.Perm.refl _
    | cons n codes ih =>
      intro seen
      rw [List.foldl_cons, List.map_cons, List.reverse_cons, List.append_assoc, List.singleton_append]
      exact (ih _).trans ((insertMark_perm _ seen).append_left _)
  have hall := hinto []
  rw [List.append_nil] at hall
  exact (List.reverse_perm _).trans (hall.trans (List.reverse_perm _))

/-! ### Putting together -/

theorem isLetterCode_of_composePair? {a b n : Nat} (h : composePair? a b = some n) :
    isLetterCode n = (isLetterCode a || isLetterCode b) := by
  unfold composePair? at h
  split at h
  · rename_i m hm
    obtain rfl := Option.some.inj h
    exact Hangul.isLetterCode_of_compose? hm
  · obtain ⟨r, hr, rfl⟩ := Option.map_eq_some_iff.mp h
    have hkey : r.2.1 = a ∧ r.2.2 = b := by simpa using List.find?_some hr
    rw [isLetterCode_composites r (List.mem_of_find?_eq_some hr), hkey.1, hkey.2]

theorem any_composeFrom (base : Nat) (marks : List Nat) (last : Nat) (rest : List (Nat × Nat)) :
    (composeFrom base marks last rest).any isLetterCode =
      (isLetterCode base || marks.any isLetterCode || rest.any fun e => isLetterCode e.2) := by
  fun_induction composeFrom base marks last rest with
  | case1 base marks last => simp
  | case2 base marks last cls n rest blocked whole hwhole ih =>
    -- a composite takes the place of the base and the character behind it
    have hpair : composePair? base n = some whole := by
      split at hwhole
      · cases hwhole
      · exact hwhole
    rw [ih, isLetterCode_of_composePair? hpair, List.any_cons]
    ac_rfl
  | case3 base marks last n rest blocked hnone ih =>
    -- the next base comes, and what was collected is written out
    rw [List.cons_append, List.any_cons, List.any_append, List.any_reverse, ih]
    simp [Bool.or_assoc]
  | case4 base marks last cls n rest blocked hnone hmark ih =>
    rw [ih, List.any_cons, List.any_cons]
    ac_rfl

theorem any_composeAll (items : List (Nat × Nat)) :
    (composeAll items).any isLetterCode = items.any fun e => isLetterCode e.2 := by
  fun_induction composeAll items with
  | case1 => rfl
  | case2 n rest => rw [any_composeFrom, List.any_nil, Bool.or_false, List.any_cons]
  | case3 cls n rest hmark ih => rw [List.any_cons, List.any_cons, ih]

/-- A text has a letter in composed form iff it has one. -/
theorem Text.any_isLetter_compose (t : Text) : t.compose.any isLetter = t.any isLetter := by
  unfold compose
  split
  · rfl
  · have hcode : isLetter ∘ Char.ofNat = isLetterCode := funext isLetter_ofNat
    have hchar : isLetter = fun c => isLetterCode c.toNat := funext isLetter_eq
    rw [List.any_map, hcode, any_composeAll, (canonicalOrder_perm _).any_eq, List.any_map,
      List.any_flatMap, hchar]
    simp only [Function.comp_def, any_decomposeFully]

end Copyedit
