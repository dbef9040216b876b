import Copyedit.Text.Blank
import Copyedit.Text.CodeSet
import Mathlib.Data.List.TakeWhile
import Mathlib.Logic.Basic

/-!
# Characters one by one

What is to be shown of all characters of a range is shown of each (`forall_char_range'`), and so is what
is to be shown of all of ASCII (`forall_isAscii`) or of all blanks (`forall_isBlank`).  So a class of
characters is seen to hold no blanks (`HasNoBlank.of_ranges`).

Where classes are runs, they have nothing in common if each two of their runs are apart
(`CodeRun.contains_of_isApart`), which is checked along both lists where they ascend
(`CodeRun.isApart_of_areApart`).
-/

namespace Copyedit

/-- Whether a character belongs to ASCII. -/
def isAscii (c : Char) : Bool := c.toNat < 128

section Ranges

variable {P : Char → Prop}

/-- What holds of the characters of a range one by one holds of all of them. -/
theorem forall_char_range' {first count : Nat} (h : ∀ n ∈ List.range' first count, P (Char.ofNat n))
    {c : Char} (hle : first ≤ c.toNat) (hlt : c.toNat < first + count) : P c := by
  have hc := h c.toNat (List.mem_range'_1.mpr ⟨hle, hlt⟩)
  rwa [Char.ofNat_toNat] at hc

/-- What holds of the ASCII characters one by one holds of all of them. -/
theorem forall_isAscii (h : ∀ n ∈ List.range' 0 128, P (Char.ofNat n)) (c : Char)
    (hc : isAscii c = true) : P c :=
  forall_char_range' h (Nat.zero_le _) (of_decide_eq_true hc)

/-- What holds of the blanks one by one holds of all of them. -/
theorem forall_isBlank
    (h : ∀ r ∈ blankRanges, ∀ n ∈ List.range' r.1 (r.2 + 1 - r.1), P (Char.ofNat n)) (c : Char)
    (hc : isBlank c = true) : P c := by
  obtain ⟨r, hr, hrange⟩ := List.any_eq_true.mp hc
  rw [Bool.and_eq_true, decide_eq_true_eq, decide_eq_true_eq] at hrange
  exact forall_char_range' (h r hr) hrange.1 (by omega)

end Ranges

/-! ### Classes without blanks -/

/-- No blank belongs to a class of characters. -/
def HasNoBlank (p : Char → Bool) : Prop := ∀ c, p c = true → isBlank c = false

theorem HasNoBlank.of_ranges {p : Char → Bool}
    (h : ∀ r ∈ blankRanges, ∀ n ∈ List.range' r.1 (r.2 + 1 - r.1), p (Char.ofNat n) = false) :
    HasNoBlank p := by
  intro c hc
  cases hblank : isBlank c with
  | false => rfl
  | true =>
    have hnot : p c = false := forall_isBlank (P := (p · = false)) h c hblank
    rw [hnot] at hc
    cases hc

theorem HasNoBlank.eq_false {p : Char → Bool} (h : HasNoBlank p) {c : Char} (hc : isBlank c = true) :
    p c = false := by
  by_contra hp
  rw [Bool.not_eq_false] at hp
  rw [h c hp] at hc
  cases hc

/-- The characters of the class at the start of a text are no blanks. -/
theorem HasNoBlank.takeWhile {p : Char → Bool} (h : HasNoBlank p) (t : List Char) :
    ∀ c ∈ t.takeWhile p, isBlank c = false :=
  fun c hc => h c (List.mem_takeWhile_imp hc)

/-! ### Runs -/

theorem mem_takeWhile_or_mem_dropWhile {α : Type} {xs : List α} {x : α} (p : α → Bool) (h : x ∈ xs) :
    x ∈ xs.takeWhile p ∨ x ∈ xs.dropWhile p := by
  rwa [← List.mem_append, List.takeWhile_append_dropWhile]

namespace CodeRun

/-- The members of a run. -/
def members (r : CodeRun) : List Nat :=
  List.range' r.first ((r.last - r.first) / r.step + 1) r.step

/-- Whether two runs have no member in common.  Most do not even overlap. -/
def isApart (r r' : CodeRun) : Bool :=
  r.last.blt r'.first || r'.last.blt r.first || r'.members.all fun n => !r.contains n

variable {r r' : CodeRun} {n : Nat}

theorem contains_iff :
    r.contains n = true ↔ (r.first ≤ n ∧ n ≤ r.last) ∧ (n - r.first) % r.step = 0 := by
  rw [contains, Bool.and_eq_true, Bool.and_eq_true, decide_eq_true_eq, decide_eq_true_eq, beq_iff_eq]

theorem mem_members (h : r.contains n = true) : n ∈ r.members := by
  obtain ⟨⟨hfirst, hlast⟩, hstep⟩ := contains_iff.mp h
  have hle := Nat.div_le_div_right (c := r.step) (Nat.sub_le_sub_right hlast r.first)
  have hmul := Nat.mul_div_cancel' (Nat.dvd_of_mod_eq_zero hstep)
  exact List.mem_range'.mpr ⟨(n - r.first) / r.step, by omega, by omega⟩

theorem contains_of_isApart (h : r.isApart r' = true) (hn : r.contains n = true) :
    r'.contains n = false := by
  by_contra hnot
  rw [Bool.not_eq_false] at hnot
  obtain ⟨⟨hfirst, hlast⟩, -⟩ := contains_iff.mp hn
  obtain ⟨⟨hfirst', hlast'⟩, -⟩ := contains_iff.mp hnot
  rw [isApart, Bool.or_eq_true, Bool.or_eq_true, Nat.blt_eq, Nat.blt_eq] at h
  rcases h with (hlt | hlt) | hall
  · omega
  · omega
  · have hn' := List.all_eq_true.mp hall n (mem_members hnot)
    rw [hn] at hn'
    cases hn'

/-- Whether the runs of two lists are apart, if both ascend: each run of the first is compared with those of the
second that it reaches, and runs of the second that have ended are left behind. -/
def areApart : List CodeRun → List CodeRun → Bool
  | [], _ => true
  | r :: rest, runs =>
    let later := runs.dropWhile fun r' => r'.last.blt r.first
    (later.takeWhile fun r' => r'.first.ble r.last).all (·.isApart r) && areApart rest later

theorem lt_first_of_mem_dropWhile {runs : List CodeRun} {n : Nat} (hruns : (runs.map (·.first)).Pairwise (· ≤ ·)) :
    ∀ r ∈ runs.dropWhile (fun r => r.first.ble n), n < r.first := by
  induction runs with
  | nil => exact List.forall_mem_nil _
  | cons r runs ih =>
    rw [List.map_cons, List.pairwise_cons, List.forall_mem_map] at hruns
    rw [List.dropWhile_cons]
    split
    · exact ih hruns.2
    · rename_i hfirst
      rw [Nat.ble_eq, Nat.not_le] at hfirst
      exact List.forall_mem_cons.mpr ⟨hfirst, fun r' hr' => hfirst.trans_le (hruns.1 r' hr')⟩

/-- The comparison of two ascending lists compares each run of one with each of the other. -/
theorem isApart_of_areApart {sources runs : List CodeRun} (hsources : (sources.map (·.first)).Pairwise (· ≤ ·))
    (hruns : (runs.map (·.first)).Pairwise (· ≤ ·)) (h : areApart sources runs = true) :
    ∀ r ∈ sources, ∀ r' ∈ runs, r'.isApart r = true := by
  induction sources generalizing runs with
  | nil => exact List.forall_mem_nil _
  | cons r rest ih =>
    rw [List.map_cons, List.pairwise_cons, List.forall_mem_map] at hsources
    rw [areApart, Bool.and_eq_true, List.all_eq_true] at h
    have hlater : ((runs.dropWhile fun r' => r'.last.blt r.first).map (·.first)).Pairwise (· ≤ ·) :=
      hruns.sublist ((List.dropWhile_sublist _).map _)
    intro s hs r' hr'
    rcases mem_takeWhile_or_mem_dropWhile (fun r' => r'.last.blt r.first) hr' with hended | hr'
    · -- a run that ends before the first of the sources ends before all of them
      have hlast := List.mem_takeWhile_imp hended
      rw [Nat.blt_eq] at hlast
      have hle : r.first ≤ s.first := by
        rcases List.mem_cons.mp hs with rfl | hs
        · exact Nat.le_refl _
        · exact hsources.1 s hs
      rw [isApart, Nat.blt_eq.mpr (hlast.trans_le hle), Bool.true_or, Bool.true_or]
    · rcases List.mem_cons.mp hs with rfl | hs
      · rcases mem_takeWhile_or_mem_dropWhile (fun r' => r'.first.ble s.last) hr' with hreached | hbeyond
        · exact h.1 r' hreached
        · have hfirst := lt_first_of_mem_dropWhile hlater r' hbeyond
          rw [isApart, Nat.blt_eq.mpr hfirst, Bool.or_true, Bool.true_or]
      · exact ih hsources.2 hlater h.2 s hs r' hr'

end CodeRun

end Copyedit
