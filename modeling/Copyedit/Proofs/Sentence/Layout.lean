import Copyedit.Text.Basic
import Mathlib.Data.List.Basic
import Mathlib.Data.List.Chain

/-!
# Pieces of a text between blanks

`Layout p t pieces` says that the text `t`, which starts at the position `p`, is made of the pieces, in
their order and at their positions, and of blanks before, between and after them.  So the pieces neither
overlap (`Layout.pairwise`) nor leave out a character that is not blank (`Layout.exists_piece`).

Layouts compose: where each piece is in turn laid out in smaller ones, so is the whole text
(`Layout.flatMap`).  That is how the tokens of all sentences come to be a layout of the text.
-/

namespace Copyedit

/-- Characters at a position. -/
structure Piece where
  /-- The position of the first character. -/
  start : Int
  /-- The characters. -/
  text : Text

/-- The position after the last character. -/
def Piece.stop (q : Piece) : Int := q.start + q.text.length

/-- `Layout p t pieces`: the text `t` at position `p` is made of the pieces and of blanks. -/
inductive Layout : Int → Text → List Piece → Prop where
  /-- A blank text has no pieces. -/
  | blank {p : Int} {t : Text} : (∀ c ∈ t, isBlank c = true) → Layout p t []
  /-- A piece follows a stretch of blanks. -/
  | piece {p : Int} {gap w rest : Text} {ps : List Piece} : (∀ c ∈ gap, isBlank c = true) → w ≠ [] →
      Layout (p + gap.length + w.length) rest ps →
      Layout p (gap ++ (w ++ rest)) (⟨p + gap.length, w⟩ :: ps)

namespace Layout

variable {p : Int} {t u : Text} {ps qs : List Piece} {q : Piece}

/-! ### Composition -/

theorem blank_append {gap : Text} (hgap : ∀ c ∈ gap, isBlank c = true)
    (h : Layout (p + gap.length) t ps) : Layout p (gap ++ t) ps := by
  cases h with
  | blank ht => exact .blank (List.forall_mem_append.mpr ⟨hgap, ht⟩)
  | @piece _ gap' w rest ps hgap' hne hrest =>
    have hstart : p + gap.length + gap'.length = p + (gap ++ gap').length := by
      rw [List.length_append]
      omega
    rw [hstart] at hrest ⊢
    rw [← List.append_assoc]
    exact .piece (List.forall_mem_append.mpr ⟨hgap, hgap'⟩) hne hrest

/-- A piece at the very start. -/
theorem cons {w : Text} (hne : w ≠ []) (h : Layout (p + w.length) t ps) :
    Layout p (w ++ t) (⟨p, w⟩ :: ps) := by
  have hstart : p + (([] : Text).length : Nat) = p := by rw [List.length_nil, Int.natCast_zero, Int.add_zero]
  have h' : Layout p ([] ++ (w ++ t)) (⟨p + (([] : Text).length : Nat), w⟩ :: ps) :=
    .piece (List.forall_mem_nil _) hne (hstart.symm ▸ h)
  rwa [hstart] at h'

theorem append (h : Layout p t ps) (h' : Layout (p + t.length) u qs) :
    Layout p (t ++ u) (ps ++ qs) := by
  induction h with
  | blank ht => exact blank_append ht h'
  | @piece p gap w rest ps hgap hne _ ih =>
    rw [List.append_assoc, List.append_assoc, List.cons_append]
    have hstart : p + (gap ++ (w ++ rest)).length = p + gap.length + w.length + rest.length := by
      rw [List.length_append, List.length_append]
      omega
    exact .piece hgap hne (ih (hstart ▸ h'))

/-- A text is made of what its pieces are made of. -/
theorem flatMap {α : Type} {xs : List α} {place : α → Piece} {f : α → List Piece}
    (h : Layout p t (xs.map place)) (hf : ∀ x ∈ xs, Layout (place x).start (place x).text (f x)) :
    Layout p t (xs.flatMap f) := by
  -- along the outer layout, each piece is replaced by those that make it up
  generalize hps : xs.map place = ps at h
  induction h generalizing xs with
  | blank ht =>
    obtain rfl := List.map_eq_nil_iff.mp hps
    exact .blank ht
  | @piece p gap w rest ps hgap _ _ ih =>
    obtain ⟨x, xs, rfl, hx, hxs⟩ := List.map_eq_cons_iff.mp hps
    obtain ⟨hw, hrest⟩ := List.forall_mem_cons.mp hf
    rw [hx] at hw
    exact blank_append hgap (hw.append (ih hrest hxs))

/-! ### Positions -/

theorem le_start (h : Layout p t ps) : ∀ q ∈ ps, p ≤ q.start := by
  induction h with
  | blank _ => exact List.forall_mem_nil _
  | @piece p gap w rest ps _ _ _ ih =>
    refine List.forall_mem_cons.mpr ⟨?_, fun q hq => ?_⟩
    · dsimp only
      omega
    · have := ih q hq
      omega

/-- The pieces come in order and do not overlap. -/
theorem pairwise (h : Layout p t ps) : ps.Pairwise fun a b => a.stop ≤ b.start := by
  induction h with
  | blank _ => exact .nil
  | piece _ _ hrest ih => exact List.pairwise_cons.mpr ⟨fun q hq => hrest.le_start q hq, ih⟩

/-- Between a piece and the next one is a gap of blanks. -/
theorem isChain (h : Layout p t ps) : ps.IsChain fun a b : Piece => ∃ before gap after : Text,
    t = before ++ (a.text ++ (gap ++ (b.text ++ after))) ∧ a.start = p + before.length ∧
      b.start = a.stop + gap.length ∧ ∀ c ∈ gap, isBlank c = true := by
  induction h with
  | blank _ => exact .nil
  | @piece p gap w rest ps _ _ hrest ih =>
    refine List.isChain_cons.mpr ⟨fun b hb => ?_, ih.imp fun a b => ?_⟩
    · cases hrest with
      | blank _ => cases hb
      | @piece _ gap' w' rest' _ hgap' _ _ =>
        obtain rfl := Option.some.inj hb
        exact ⟨gap, gap', rest', rfl, rfl, rfl, hgap'⟩
    · rintro ⟨before, gap', after, rfl, hstart, hgap⟩
      refine ⟨gap ++ (w ++ before), gap', after, by simp only [List.append_assoc], ?_, hgap⟩
      rw [hstart, List.length_append, List.length_append]
      omega

/-- A piece stands in the text at its position. -/
theorem exists_append (h : Layout p t ps) (hq : q ∈ ps) :
    q.text ≠ [] ∧ ∃ before after, t = before ++ (q.text ++ after) ∧ q.start = p + before.length := by
  induction h with
  | blank _ => cases hq
  | @piece p gap w rest ps _ hne _ ih =>
    rcases List.mem_cons.mp hq with rfl | hq
    · exact ⟨hne, gap, rest, rfl, rfl⟩
    · obtain ⟨hne, before, after, rfl, hstart⟩ := ih hq
      refine ⟨hne, gap ++ (w ++ before), after, by simp only [List.append_assoc], ?_⟩
      rw [hstart, List.length_append, List.length_append]
      omega

/-- Each character that is not blank stands in a piece. -/
theorem exists_piece (h : Layout p t ps) {n : Nat} (hn : n < t.length)
    (hsolid : isBlank t[n] = false) : ∃ q ∈ ps, q.start ≤ p + n ∧ p + n < q.stop := by
  induction h generalizing n with
  | @blank p t ht =>
    rw [ht _ (List.getElem_mem hn)] at hsolid
    cases hsolid
  | @piece p gap w rest ps hgap _ _ ih =>
    rw [List.length_append, List.length_append] at hn
    -- the position lies in the blanks, in the first piece or behind it
    rcases Nat.lt_or_ge n gap.length with hlt | hge
    · rw [List.getElem_append_left hlt, hgap _ (List.getElem_mem hlt)] at hsolid
      cases hsolid
    · rw [List.getElem_append_right hge] at hsolid
      rcases Nat.lt_or_ge (n - gap.length) w.length with hlt' | hge'
      · refine ⟨_, List.mem_cons_self, ?_, ?_⟩
        · dsimp only
          omega
        · unfold Piece.stop
          dsimp only
          omega
      · rw [List.getElem_append_right hge'] at hsolid
        obtain ⟨q, hq, hle, hlt⟩ := ih (by omega) hsolid
        exact ⟨q, List.mem_cons_of_mem _ hq, by omega, by omega⟩

/-- The pieces cover exactly the characters that are not blank, if they hold no blanks themselves. -/
theorem cover (h : Layout p t ps) (hsolid : ∀ q ∈ ps, ∀ c ∈ q.text, isBlank c = false) {n : Nat}
    (hn : n < t.length) : isBlank t[n] = false ↔ ∃ q ∈ ps, q.start ≤ p + n ∧ p + n < q.stop := by
  refine ⟨h.exists_piece hn, ?_⟩
  rintro ⟨q, hq, hle, hlt⟩
  obtain ⟨-, before, after, rfl, hstart⟩ := h.exists_append hq
  unfold Piece.stop at hlt
  have hge : before.length ≤ n := by omega
  have hlt' : n - before.length < q.text.length := by omega
  rw [List.getElem_append_right hge, List.getElem_append_left hlt']
  exact hsolid q hq _ (List.getElem_mem hlt')

end Layout

end Copyedit
