import Copyedit.Finding
import Copyedit.Proofs.Sentence.Tokenize
import Copyedit.Proofs.Sequence
import Mathlib.Data.List.NodupEquivFin
import Mathlib.Data.List.Pairwise

/-!
# Stretches that fit the pieces

`IsPlaced p t pieces start stop`: the stretch from `start` to `stop` lies in the text `t` at position `p`,
has characters, and neither of its ends falls inside a piece.  A stretch that goes from one piece to another
is placed (`Layout.isPlaced`), and so is one that begins and ends with a blank (`Layout.isPlaced_blanks`).

A stretch that is placed in one part of a text, among the pieces of that part, is placed in the text among
the pieces of all parts (`IsPlaced.flatMap`): the other parts lie before or behind.

Most rules report stretches from token to token (`Finding.Spans`), which are placed wherever the tokens
make up a text (`Finding.Spans.isPlaced`).
-/

namespace Copyedit

/-- A position does not fall inside any of the pieces. -/
def IsFree (ps : List Piece) (x : Int) : Prop := ∀ q ∈ ps, x ≤ q.start ∨ q.stop ≤ x

/-- A stretch fits the pieces that make up a text. -/
structure IsPlaced (p : Int) (t : Text) (ps : List Piece) (start stop : Int) : Prop where
  /-- It lies in the text. -/
  le_start : p ≤ start
  /-- It has characters. -/
  start_lt_stop : start < stop
  /-- It lies in the text. -/
  stop_le : stop ≤ p + t.length
  /-- It does not begin inside a piece. -/
  start_free : IsFree ps start
  /-- It does not end inside a piece. -/
  stop_free : IsFree ps stop

namespace Layout

variable {p : Int} {t : Text} {ps : List Piece} {q r : Piece}

/-- A piece has characters and lies in the text. -/
theorem bounds (h : Layout p t ps) (hq : q ∈ ps) :
    p ≤ q.start ∧ q.start < q.stop ∧ q.stop ≤ p + t.length := by
  obtain ⟨hne, before, after, rfl, hstart⟩ := h.exists_append hq
  have hpos := List.length_pos_iff.mpr hne
  unfold Piece.stop
  rw [List.length_append, List.length_append]
  omega

/-- Of two items that stand in a text, one is before the other. -/
theorem eq_or_apart {α : Type} {xs : List α} {place : α → Piece} (h : Layout p t (xs.map place)) {x y : α}
    (hx : x ∈ xs) (hy : y ∈ xs) :
    x = y ∨ (place x).stop ≤ (place y).start ∨ (place y).stop ≤ (place x).start :=
  eq_or_rel_of_pairwise (List.pairwise_map.mp h.pairwise) hx hy

theorem piece_eq_or_apart (h : Layout p t ps) (hq : q ∈ ps) (hr : r ∈ ps) :
    q = r ∨ q.stop ≤ r.start ∨ r.stop ≤ q.start :=
  eq_or_rel_of_pairwise h.pairwise hq hr

theorem start_isFree (h : Layout p t ps) (hq : q ∈ ps) : IsFree ps q.start := by
  intro r hr
  have hbounds := h.bounds hq
  rcases h.piece_eq_or_apart hq hr with rfl | hqr | hrq
  · exact .inl (Int.le_refl _)
  · exact .inl (by omega)
  · exact .inr hrq

theorem stop_isFree (h : Layout p t ps) (hq : q ∈ ps) : IsFree ps q.stop := by
  intro r hr
  have hbounds := h.bounds hq
  rcases h.piece_eq_or_apart hq hr with rfl | hqr | hrq
  · exact .inr (Int.le_refl _)
  · exact .inl hqr
  · exact .inr (by omega)

/-- A stretch from one piece to the same or to a later one is placed. -/
theorem isPlaced (h : Layout p t ps) (hq : q ∈ ps) (hr : r ∈ ps) (hle : q.start ≤ r.start) :
    IsPlaced p t ps q.start r.stop where
  le_start := (h.bounds hq).1
  start_lt_stop := Int.lt_of_le_of_lt hle (h.bounds hr).2.1
  stop_le := (h.bounds hr).2.2
  start_free := h.start_isFree hq
  stop_free := h.stop_isFree hr

/-- There is no piece at a blank, so neither the position before it nor the one after it is inside a
piece. -/
theorem blank_isFree (h : Layout p t ps) (hsolid : ∀ q ∈ ps, ∀ c ∈ q.text, isBlank c = false) {n : Nat}
    (hn : n < t.length) (hblank : isBlank t[n] = true) :
    IsFree ps (p + n) ∧ IsFree ps (p + n + 1) := by
  have hnone : ∀ q ∈ ps, ¬ (q.start ≤ p + n ∧ p + n < q.stop) := by
    intro q hq hcover
    have hsolid := (h.cover hsolid hn).mpr ⟨q, hq, hcover⟩
    rw [hblank] at hsolid
    cases hsolid
  constructor
  · intro q hq
    have := hnone q hq
    omega
  · intro q hq
    have := hnone q hq
    omega

/-- A stretch that begins and ends with a blank is placed. -/
theorem isPlaced_blanks (h : Layout p t ps) (hsolid : ∀ q ∈ ps, ∀ c ∈ q.text, isBlank c = false)
    {first last : Nat} (hle : first ≤ last) (hlast : last < t.length)
    (hfirstBlank : isBlank t[first] = true) (hlastBlank : isBlank t[last] = true) :
    IsPlaced p t ps (p + first) (p + last + 1) where
  le_start := by omega
  start_lt_stop := by omega
  stop_le := by omega
  start_free := (h.blank_isFree hsolid (by omega) hfirstBlank).1
  stop_free := (h.blank_isFree hsolid hlast hlastBlank).2

end Layout

/-- What is placed in a part of a text, among the pieces of that part, is placed in the text. -/
theorem IsPlaced.flatMap {p start stop : Int} {t : Text} {α : Type} {xs : List α} {place : α → Piece}
    {f : α → List Piece} (h : Layout p t (xs.map place))
    (hf : ∀ x ∈ xs, Layout (place x).start (place x).text (f x)) {x : α} (hx : x ∈ xs)
    (hplaced : IsPlaced (place x).start (place x).text (f x) start stop) :
    IsPlaced p t (xs.flatMap f) start stop := by
  have hbounds := h.bounds (List.mem_map_of_mem hx)
  have hstart := hplaced.le_start
  have hlt := hplaced.start_lt_stop
  have hstop : stop ≤ (place x).stop := hplaced.stop_le
  -- the pieces of another part are before or behind, with that part
  have hfree : ∀ n, (place x).start ≤ n → n ≤ (place x).stop → IsFree (f x) n → IsFree (xs.flatMap f) n := by
    intro n hle hge hfree r hr
    obtain ⟨y, hy, hr⟩ := List.mem_flatMap.mp hr
    have hinner := (hf y hy).bounds hr
    have hinnerStop : r.stop ≤ (place y).stop := hinner.2.2
    rcases h.eq_or_apart hx hy with rfl | hbefore | hbehind
    · exact hfree r hr
    · exact .inl (by omega)
    · exact .inr (by omega)
  exact {
    le_start := by omega
    start_lt_stop := hlt
    stop_le := by omega
    start_free := hfree start hstart (by omega) hplaced.start_free
    stop_free := hfree stop (by omega) hstop hplaced.stop_free }

/-! ### From token to token -/

/-- A finding goes from the start of a token to the end of the same or of a later one. -/
def Finding.Spans (f : Finding) (tokens : List Token) : Prop :=
  ∃ (i j : Nat) (a b : Token), i ≤ j ∧ tokens[i]? = some a ∧ tokens[j]? = some b ∧
    f.start = a.start ∧ b.stop = .ok f.stop

namespace Finding.Spans

variable {f : Finding} {tokens : List Token}

/-- Tokens in between do not matter. -/
theorem of_sublist {words : List Token} (hsub : words.Sublist tokens) (h : f.Spans words) :
    f.Spans tokens := by
  obtain ⟨place, hplace⟩ := List.sublist_iff_exists_orderEmbedding_getElem?_eq.mp hsub
  obtain ⟨i, j, a, b, hle, ha, hb, hstart, hstop⟩ := h
  exact ⟨place i, place j, a, b, place.monotone hle, hplace i ▸ ha, hplace j ▸ hb, hstart, hstop⟩

theorem isPlaced {p : Int} {t : Text} (ht : IsTokenized p t tokens) (h : f.Spans tokens) :
    IsPlaced p t (tokens.map Token.piece) f.start f.stop := by
  obtain ⟨i, j, a, b, hle, ha, hb, hstart, hstop⟩ := h
  have haMem := List.mem_of_getElem? ha
  have hbMem := List.mem_of_getElem? hb
  rw [ht.stop_eq hbMem] at hstop
  -- the tokens are apart, so the later one starts behind the earlier one
  have horder : a.start ≤ b.start := by
    obtain ⟨hi, rfl⟩ := List.getElem?_eq_some_iff.mp ha
    obtain ⟨hj, rfl⟩ := List.getElem?_eq_some_iff.mp hb
    rcases Nat.lt_or_eq_of_le hle with hlt | rfl
    · have hapart := List.pairwise_iff_getElem.mp (List.pairwise_map.mp ht.layout.pairwise) i j hi hj hlt
      have hpiece := (ht.layout.bounds (List.mem_map_of_mem haMem)).2.1
      exact Int.le_trans (Int.le_of_lt hpiece) hapart
    · exact Int.le_refl _
  rw [hstart, ← Except.ok.inj hstop]
  exact ht.layout.isPlaced (List.mem_map_of_mem haMem) (List.mem_map_of_mem hbMem) horder

end Finding.Spans

end Copyedit
