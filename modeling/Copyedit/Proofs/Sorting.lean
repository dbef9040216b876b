import Copyedit.Text.Basic
import Mathlib.Data.Char
import Mathlib.Data.List.Basic
import Mathlib.Data.List.Lex
import Mathlib.Data.List.Pairwise
import Mathlib.Order.Lattice

/-!
# Sorting by a key

Sorting by a key is stable: items of one key stay in the order in which they came (`filter_mergeSort_key`).
This and the ascending order of the keys determine the result (`eq_of_filter_key_eq`), so that it makes no
difference whether items are left out before or after sorting (`mergeSort_filter_key`).

A sorted list falls into the items before a key, those of it and those after it
(`filter_lt_append_filter_eq_append`), so that of what items of one key yield, sorting leaves the order
alone (`idxOf_map_mergeSort_key`).

Texts are keys as well: they are compared in the usual order (`Text.le_iff`).
-/

namespace Copyedit

variable {α γ : Type} [LinearOrder γ] {f : α → γ} {items items' : List α}

theorem trans_le_key (f : α → γ) (a b c : α) (hab : decide (f a ≤ f b) = true)
    (hbc : decide (f b ≤ f c) = true) : decide (f a ≤ f c) = true := by
  rw [decide_eq_true_eq] at *
  exact le_trans hab hbc

theorem total_le_key (f : α → γ) (a b : α) :
    (decide (f a ≤ f b) || decide (f b ≤ f a)) = true := by
  rw [Bool.or_eq_true, decide_eq_true_eq, decide_eq_true_eq]
  exact le_total _ _

theorem pairwise_mergeSort_key (f : α → γ) (items : List α) :
    (items.mergeSort fun a b => f a ≤ f b).Pairwise fun a b => f a ≤ f b :=
  (List.pairwise_mergeSort (trans_le_key f) (total_le_key f) items).imp of_decide_eq_true

/-- Items of one key stay in order. -/
theorem filter_mergeSort_key (f : α → γ) (items : List α) (k : γ) :
    (items.mergeSort fun a b => f a ≤ f b).filter (fun a => f a = k) =
      items.filter fun a => f a = k := by
  have hperm := (List.mergeSort_perm items fun a b => f a ≤ f b).filter fun a => f a = k
  have hsame : (items.filter fun a => f a = k).Pairwise fun a b => decide (f a ≤ f b) = true := by
    refine List.pairwise_of_forall_mem_list fun a ha b hb => ?_
    rw [List.mem_filter, decide_eq_true_eq] at ha hb
    exact decide_eq_true (ha.2.trans hb.2.symm).le
  have hsub : (items.filter fun a => f a = k).Sublist (items.mergeSort fun a b => f a ≤ f b) :=
    List.sublist_mergeSort (trans_le_key f) (total_le_key f) hsame List.filter_sublist
  have hkept := hsub.filter fun a => f a = k
  simp only [List.filter_filter, Bool.and_self] at hkept
  exact (hkept.eq_of_length hperm.length_eq.symm).symm

theorem mem_iff_of_filter_key_eq
    (hkey : ∀ k, items.filter (fun a => f a = k) = items'.filter fun a => f a = k) (a : α) :
    a ∈ items ↔ a ∈ items' := by
  have hmem : a ∈ items.filter (fun b => f b = f a) ↔ a ∈ items'.filter fun b => f b = f a := by
    rw [hkey]
  simpa [List.mem_filter] using hmem

/-- Items in ascending order are determined by those of each key. -/
theorem eq_of_filter_key_eq (h : items.Pairwise fun a b => f a ≤ f b)
    (h' : items'.Pairwise fun a b => f a ≤ f b)
    (hkey : ∀ k, items.filter (fun a => f a = k) = items'.filter fun a => f a = k) :
    items = items' := by
  have hmem := mem_iff_of_filter_key_eq hkey
  induction items generalizing items' with
  | nil => exact (List.eq_nil_iff_forall_not_mem.mpr fun a ha => List.not_mem_nil ((hmem a).mpr ha)).symm
  | cons a rest ih =>
    cases items' with
    | nil => exact absurd ((hmem a).mp List.mem_cons_self) List.not_mem_nil
    | cons b rest' =>
      obtain ⟨ha, hrest⟩ := List.pairwise_cons.mp h
      obtain ⟨hb, hrest'⟩ := List.pairwise_cons.mp h'
      -- both lists start with the least key, and so with the first item of that key
      have hle : ∀ c ∈ a :: rest, f a ≤ f c := List.forall_mem_cons.mpr ⟨le_refl _, ha⟩
      have hge : ∀ c ∈ b :: rest', f b ≤ f c := List.forall_mem_cons.mpr ⟨le_refl _, hb⟩
      have hab : f b = f a := le_antisymm (hge a ((hmem a).mp List.mem_cons_self))
        (hle b ((hmem b).mpr List.mem_cons_self))
      have hhead := hkey (f a)
      simp only [List.filter_cons, hab, decide_true, if_true] at hhead
      obtain ⟨rfl, -⟩ := List.cons.inj hhead
      have htail : ∀ k, rest.filter (fun a => f a = k) = rest'.filter fun a => f a = k := by
        intro k
        have hk := hkey k
        rw [List.filter_cons, List.filter_cons] at hk
        split at hk
        · exact (List.cons.inj hk).2
        · exact hk
      rw [ih hrest hrest' htail (mem_iff_of_filter_key_eq htail)]

/-- Sorting commutes with leaving items out. -/
theorem mergeSort_filter_key (f : α → γ) (p : α → Bool) (items : List α) :
    (items.filter p).mergeSort (fun a b => f a ≤ f b) =
      (items.mergeSort fun a b => f a ≤ f b).filter p := by
  have hsorted : (items.mergeSort fun a b => f a ≤ f b).Pairwise fun a b => f a ≤ f b :=
    pairwise_mergeSort_key f items
  refine eq_of_filter_key_eq (pairwise_mergeSort_key f (items.filter p)) (hsorted.filter p) fun k => ?_
  calc ((items.filter p).mergeSort fun a b => f a ≤ f b).filter (fun a => f a = k)
    _ = (items.filter p).filter (fun a => f a = k) := filter_mergeSort_key f (items.filter p) k
    _ = (items.filter fun a => f a = k).filter p := List.filter_comm (fun a => f a = k) p _
    _ = ((items.mergeSort fun a b => f a ≤ f b).filter fun a => f a = k).filter p := by
      rw [filter_mergeSort_key]
    _ = ((items.mergeSort fun a b => f a ≤ f b).filter p).filter (fun a => f a = k) :=
      List.filter_comm p (fun a => f a = k) _

/-! ### Cutting -/

omit [LinearOrder γ] in
/-- Where `p` holds of all items before one of which it holds, its items come first. -/
theorem filter_append_filter_not {p : α → Bool}
    (h : items.Pairwise fun a b => p b = true → p a = true) :
    items.filter p ++ items.filter (!p ·) = items := by
  induction items with
  | nil => rfl
  | cons a rest ih =>
    obtain ⟨ha, hrest⟩ := List.pairwise_cons.mp h
    have hsplit := ih hrest
    by_cases hp : p a = true
    · simp [hp, hsplit]
    · have hnone : rest.filter p = [] :=
        List.filter_eq_nil_iff.mpr fun b hb hpb => hp (ha b hb hpb)
      rw [hnone, List.nil_append] at hsplit
      simp [hp, hnone, hsplit]

/-- Items in ascending order of their keys, cut before and after those of one key. -/
theorem filter_lt_append_filter_eq_append (h : items.Pairwise fun a b => f a ≤ f b) (k : γ) :
    items.filter (fun a => f a < k) ++ (items.filter (fun a => f a = k) ++
      items.filter fun a => k < f a) = items := by
  have hlow : items.Pairwise fun a b => decide (f b < k) = true → decide (f a < k) = true :=
    h.imp fun hab => by simpa using hab.trans_lt
  have hhigh : (items.filter fun a => !decide (f a < k)).Pairwise
      fun a b => decide (f b ≤ k) = true → decide (f a ≤ k) = true :=
    (h.filter _).imp fun hab => by simpa using hab.trans
  have hequal : (items.filter fun a => !decide (f a < k)).filter (fun a => f a ≤ k) =
      items.filter fun a => f a = k := by
    rw [List.filter_filter]
    refine List.filter_congr fun a _ => ?_
    rcases lt_trichotomy (f a) k with hlt | heq | hgt
    · simp [hlt, hlt.ne]
    · simp [heq]
    · simp [hgt.ne', hgt]
  have hgreater : (items.filter fun a => !decide (f a < k)).filter (fun a => !decide (f a ≤ k)) =
      items.filter fun a => k < f a := by
    rw [List.filter_filter]
    refine List.filter_congr fun a _ => ?_
    by_cases hgt : k < f a
    · simp [hgt, hgt.le]
    · simp [hgt, not_lt.mp hgt]
  rw [← hequal, ← hgreater, filter_append_filter_not hhigh, filter_append_filter_not hlow]

/-- What items yield, the least of which have the key `k`, stands among what those of that key yield,
behind what is before them. -/
theorem idxOf_map_mergeSort_key {β : Type} [BEq β] [LawfulBEq β] (g : α → β) {b : β} {k : γ}
    (hleast : ∀ a ∈ items, g a = b → k ≤ f a) (hmem : b ∈ (items.filter fun a => f a = k).map g) :
    ((items.mergeSort fun a b => f a ≤ f b).map g).idxOf b =
      ((items.mergeSort fun a b => f a ≤ f b).filter fun a => f a < k).length +
        ((items.filter fun a => f a = k).map g).idxOf b := by
  have hcut := filter_lt_append_filter_eq_append (pairwise_mergeSort_key f items) k
  rw [filter_mergeSort_key] at hcut
  have hbefore : b ∉ ((items.mergeSort fun a b => f a ≤ f b).filter fun a => f a < k).map g := by
    intro hb
    obtain ⟨a, ha, hab⟩ := List.mem_map.mp hb
    rw [List.mem_filter, (List.mergeSort_perm _ _).mem_iff, decide_eq_true_eq] at ha
    exact absurd ha.2 (not_lt.mpr (hleast a ha.1 hab))
  rw [← congrArg (List.map g) hcut, List.map_append, List.map_append,
    List.idxOf_append_of_notMem hbefore, List.idxOf_append_of_mem hmem, List.length_map]

/-! ### Texts -/

/-- The order by the codes of the characters is the usual one. -/
theorem Text.le_iff (a b : Text) : a.le b = true ↔ a ≤ b := by
  induction a generalizing b with
  | nil =>
    cases b with
    | nil => exact iff_of_true rfl (le_refl _)
    | cons d b => exact iff_of_true rfl (le_of_lt (List.nil_lt_cons d b))
  | cons c a ih =>
    cases b with
    | nil => exact iff_of_false Bool.false_ne_true (not_le_of_gt (List.nil_lt_cons c a))
    | cons d b =>
      have hchar : c < d ↔ c.toNat < d.toNat := Iff.rfl
      have hcons : c :: a < d :: b ↔ c < d ∨ c = d ∧ a < b := List.cons_lt_cons_iff
      rw [le, Bool.or_eq_true, Bool.and_eq_true, decide_eq_true_eq, beq_iff_eq, Char.toNat_inj, ih,
        ← hchar, le_iff_lt_or_eq, le_iff_lt_or_eq, hcons, List.cons_eq_cons]
      tauto

end Copyedit
