import Copyedit.Proofs.Characters
import Copyedit.Proofs.Sentence.Layout
import Copyedit.Sentence.Tokenize
import Mathlib.Data.List.Chain
import Mathlib.Data.List.DropRight

/-!
# Tokens of a sentence

Whichever kind of token fits at a place, it takes at least one character and no blank
(`tokenLength_isSolid`): each kind is made of classes of characters that hold no blanks.  So a text is
made of its tokens and of blanks (`tokensFrom_isTokenized`), and a token after the first says that a blank
stands before it exactly when there is a gap (`tokensFrom_spaceBefore`).
-/

namespace Copyedit

namespace Text

/-! ### Starts without blanks -/

/-- The first `n` characters are there, and none of them is blank. -/
def IsSolid (t : Text) (n : Nat) : Prop := n ≤ t.length ∧ ∀ c ∈ t.take n, isBlank c = false

theorem isSolid_zero (t : Text) : IsSolid t 0 :=
  ⟨Nat.zero_le _, fun _ hc => absurd hc List.not_mem_nil⟩

theorem IsSolid.append {a b : Text} {n : Nat} (ha : ∀ c ∈ a, isBlank c = false) (h : IsSolid b n) :
    IsSolid (a ++ b) (a.length + n) := by
  obtain ⟨hle, hb⟩ := h
  refine ⟨by rw [List.length_append]; omega, ?_⟩
  rw [List.take_length_add_append]
  exact List.forall_mem_append.mpr ⟨ha, hb⟩

theorem IsSolid.cons {c : Char} {t : Text} {n : Nat} (hc : isBlank c = false) (h : IsSolid t n) :
    IsSolid (c :: t) (n + 1) := by
  obtain ⟨hle, ht⟩ := h
  exact ⟨Nat.succ_le_succ hle, List.forall_mem_cons.mpr ⟨hc, ht⟩⟩

theorem IsSolid.of_start {a t : Text} {n : Nat} (h : a <+: t) (ha : ∀ c ∈ a, isBlank c = false)
    (hn : n ≤ a.length) : IsSolid t n := by
  obtain ⟨rest, rfl⟩ := h
  refine ⟨by rw [List.length_append]; omega, fun c hc => ha c ?_⟩
  rw [List.take_append_of_le_length hn] at hc
  exact List.mem_of_mem_take hc

theorem IsSolid.of_dropWhile {p : Char → Bool} {t : Text} {n : Nat} (hp : HasNoBlank p)
    (h : IsSolid (t.dropWhile p) n) : IsSolid t ((t.takeWhile p).length + n) := by
  have happend := IsSolid.append (hp.takeWhile t) h
  rwa [List.takeWhile_append_dropWhile] at happend

/-! ### Kinds of tokens -/

theorem chainLength_isSolid {isSep isPart : Char → Bool}
    (hsep : HasNoBlank isSep) (hpart : HasNoBlank isPart) (t : Text) :
    IsSolid t (chainLength isSep isPart t) := by
  fun_induction chainLength isSep isPart t with
  | case1 t _ => exact isSolid_zero t
  | case2 t _ ih =>
    -- what follows the first part counts only if a separator and another part do
    refine .of_dropWhile hpart ?_
    split
    · exact isSolid_zero _
    · rename_i c rest hrest
      split
      · rename_i hc
        dsimp only
        split
        · exact isSolid_zero _
        · rw [hrest]
          exact (ih c rest hrest).cons (hsep c hc)
      · exact isSolid_zero _

theorem afterScheme?_suffix {t after : Text} (h : t.afterScheme? = some after) : after <:+ t := by
  unfold afterScheme? at h
  split at h
  · cases h
  · rename_i c rest
    split at h
    · split at h
      · rename_i after' hrest
        obtain rfl := Option.some.inj h
        have hdrop : ':' :: '/' :: '/' :: after' <:+ rest := hrest ▸ List.dropWhile_suffix isSchemeChar
        have hafter : after' <:+ ':' :: '/' :: '/' :: after' := List.suffix_append [':', '/', '/'] after'
        exact (hafter.trans hdrop).trans (List.suffix_cons c rest)
      · cases h
    · cases h

theorem afterWww?_suffix {t after : Text} (h : t.afterWww? = some after) : after <:+ t := by
  unfold afterWww? at h
  split at h
  · rename_i a b c rest
    split at h
    · obtain rfl := Option.some.inj h
      exact List.suffix_append [a, b, c, '.'] rest
    · cases h
  · cases h

theorem addressLength?_isSolid {t : Text} {afterStart? : Text → Option Text}
    (hsuffix : ∀ {u after}, afterStart? u = some after → after <:+ u) {n : Nat}
    (h : addressLength? t afterStart? = some n) : IsSolid t n := by
  unfold addressLength? at h
  dsimp only at h
  obtain ⟨body, hbody, h⟩ := Option.bind_eq_some_iff.mp h
  split at h
  · cases h
  · have hle := (hsuffix hbody).length_le
    have hkept : (dropEndWhile isAddressTrailer body).length ≤ body.length :=
      (List.rdropWhile_prefix isAddressTrailer body).length_le
    obtain rfl := Option.some.inj h
    have hrun : HasNoBlank (!isBlank ·) := fun c hc => (Bool.not_eq_true' _).mp hc
    exact .of_start (List.takeWhile_prefix (!isBlank ·)) (hrun.takeWhile t) (by omega)

theorem emailLength?_isSolid {t : Text} {n : Nat} (h : emailLength? t = some n) : IsSolid t n := by
  unfold emailLength? at h
  dsimp only at h
  split at h
  · rename_i domain hdomain
    split at h
    · cases h
    · obtain rfl := Option.some.inj h
      have hchain : IsSolid domain (chainLength (· == '.') isDomainChar domain) :=
        chainLength_isSolid (.of_ranges (by decide)) (.of_ranges (by decide +kernel)) domain
      have hmailbox : HasNoBlank isMailboxChar := .of_ranges (by decide +kernel)
      have hrest := hchain.cons (c := '@') (by decide)
      rw [← hdomain] at hrest
      rw [Nat.add_assoc, Nat.add_comm 1]
      exact .of_dropWhile hmailbox hrest
  · cases h

theorem positive?_isSolid {t : Text} {n k : Nat} (hn : IsSolid t n) (h : positive? n = some k) :
    IsSolid t k := by
  unfold positive? at h
  split at h
  · cases h
  · exact Option.some.inj h ▸ hn

/-- A token has characters, and none of them is blank. -/
theorem tokenLength_isSolid {c : Char} (hc : isBlank c = false) (rest : Text) :
    IsSolid (c :: rest) (tokenLength (c :: rest)) := by
  -- whatever is found, the token takes the first character at least
  have hsingle : IsSolid (c :: rest) 1 := (isSolid_zero rest).cons hc
  have hfound : ∀ {found : Option Nat}, (∀ n, found = some n → IsSolid (c :: rest) n) →
      IsSolid (c :: rest) (max 1 (found.getD 1)) := by
    intro found h
    cases found with
    | none => exact hsingle
    | some n =>
      rcases Nat.le_total 1 n with hle | hle
      · rw [Option.getD_some, Nat.max_eq_right hle]
        exact h n rfl
      · rw [Option.getD_some, Nat.max_eq_left hle]
        exact hsingle
  have hnumber : HasNoBlank isNumberJoiner := .of_ranges (by decide)
  have hdecimal : HasNoBlank isDecimal := .of_ranges (by decide +kernel)
  have hjoiner : HasNoBlank isWordJoiner := .of_ranges (by decide)
  have hword : HasNoBlank isWordChar := .of_ranges (by decide +kernel)
  unfold tokenLength
  -- one case for each kind of token, in the order in which they are tried
  refine hfound fun n h => ?_
  simp only [Option.orElse_eq_or, Option.or_eq_some_iff] at h
  rcases h with h | ⟨-, h | ⟨-, h | ⟨-, h | ⟨-, h⟩⟩⟩⟩
  · exact addressLength?_isSolid afterScheme?_suffix h
  · exact addressLength?_isSolid afterWww?_suffix h
  · exact emailLength?_isSolid h
  · exact positive?_isSolid (chainLength_isSolid hnumber hdecimal _) h
  · exact positive?_isSolid (chainLength_isSolid hjoiner hword _) h

theorem one_le_tokenLength (t : Text) : 1 ≤ tokenLength t := Nat.le_max_left ..

end Text

/-! ### Tokens -/

/-- A token as a piece of the document. -/
def Token.piece (k : Token) : Piece := ⟨k.start, k.text.getD []⟩

theorem Token.stop_eq_piece_stop {k : Token} {w : Text} (h : k.text = some w) :
    k.stop = .ok k.piece.stop := by
  rw [stop_of_text h, Piece.stop, piece, h, Option.getD_some]

/-- `IsTokenized p t tokens`: the text `t` at position `p` is made of the tokens, which hold no blanks, and
of blanks. -/
structure IsTokenized (p : Int) (t : Text) (tokens : List Token) : Prop where
  /-- The tokens and blanks make up the text. -/
  layout : Layout p t (tokens.map Token.piece)
  /-- Each token has a text, and no blank is in it. -/
  solid : ∀ k ∈ tokens, ∃ w, k.text = some w ∧ ∀ c ∈ w, isBlank c = false

namespace IsTokenized

variable {p : Int} {t : Text} {tokens : List Token}

theorem piece_solid (h : IsTokenized p t tokens) :
    ∀ q ∈ tokens.map Token.piece, ∀ c ∈ q.text, isBlank c = false := by
  refine List.forall_mem_map.mpr fun k hk => ?_
  obtain ⟨w, hw, hsolid⟩ := h.solid k hk
  rwa [Token.piece, hw, Option.getD_some]

theorem stop_eq (h : IsTokenized p t tokens) {k : Token} (hk : k ∈ tokens) :
    k.stop = .ok k.piece.stop :=
  let ⟨_, hw, _⟩ := h.solid k hk
  Token.stop_eq_piece_stop hw

theorem blank_cons {c : Char} (hc : isBlank c = true) (h : IsTokenized (p + 1) t tokens) :
    IsTokenized p (c :: t) tokens := by
  have hblank : ∀ d ∈ [c], isBlank d = true := List.forall_mem_singleton.mpr hc
  exact ⟨Layout.blank_append hblank h.layout, h.solid⟩

/-- A text is made of the tokens of its parts. -/
theorem flatMap {α : Type} {xs : List α} {place : α → Piece} {f : α → List Token}
    (h : Layout p t (xs.map place)) (hf : ∀ x ∈ xs, IsTokenized (place x).start (place x).text (f x)) :
    IsTokenized p t (xs.flatMap f) where
  layout := by
    rw [List.map_flatMap]
    exact h.flatMap fun x hx => (hf x hx).layout
  solid k hk := by
    obtain ⟨x, hx, hk⟩ := List.mem_flatMap.mp hk
    exact (hf x hx).solid k hk

/-- A token at the very start. -/
theorem cons {k : Token} {n : Nat} (hsolid : Text.IsSolid t n) (hn : 1 ≤ n)
    (htext : k.text = some (t.take n)) (hstart : k.start = p) (h : IsTokenized (p + n) (t.drop n) tokens) :
    IsTokenized p t (k :: tokens) := by
  have hlength : (t.take n).length = n := List.length_take_of_le hsolid.1
  have hne : t.take n ≠ [] := by
    intro hnil
    rw [hnil, List.length_nil] at hlength
    omega
  have hrest : Layout (p + (t.take n).length) (t.drop n) (tokens.map Token.piece) := by
    rw [hlength]
    exact h.layout
  have hlayout := Layout.cons hne hrest
  rw [List.take_append_drop] at hlayout
  have hpiece : k.piece = ⟨p, t.take n⟩ := by rw [Token.piece, htext, hstart, Option.getD_some]
  refine ⟨?_, List.forall_mem_cons.mpr ⟨⟨_, htext, hsolid.2⟩, h.solid⟩⟩
  rw [List.map_cons, hpiece]
  exact hlayout

end IsTokenized

namespace Text

/-- A text is made of its tokens and of blanks. -/
theorem tokensFrom_isTokenized (position : Int) (spaced first : Bool) (t : Text) :
    IsTokenized position t (tokensFrom position spaced first t) := by
  fun_induction tokensFrom position spaced first t with
  | case1 => exact ⟨.blank (List.forall_mem_nil _), List.forall_mem_nil _⟩
  | case2 _ _ _ _ _ hc ih => exact ih.blank_cons hc
  | case3 _ _ _ c rest hc n ih =>
    have hsolid : IsSolid (c :: rest) n := tokenLength_isSolid (Bool.eq_false_iff.mpr hc) rest
    exact ih.cons hsolid (one_le_tokenLength _) rfl rfl

/-- A token after the first says that a blank stands before it exactly when there is a gap.  That of the
first token depends on what stands before the text. -/
theorem tokensFrom_spaceBefore (position : Int) (spaced first : Bool) (t : Text) :
    (∀ k ∈ (tokensFrom position spaced first t).head?,
      k.spaceBefore = true ↔ spaced = true ∨ position < k.start) ∧
    (tokensFrom position spaced first t).IsChain fun a b =>
      ∃ stop, a.stop = .ok stop ∧ (b.spaceBefore = true ↔ stop < b.start) := by
  fun_induction tokensFrom position spaced first t with
  | case1 => exact ⟨nofun, .nil⟩
  | case2 position spaced first c rest hc ih =>
    obtain ⟨hhead, hchain⟩ := ih
    refine ⟨fun k hk => ?_, hchain⟩
    -- behind a blank both sides hold: the flag is set, and the token starts later
    have hle := (tokensFrom_isTokenized (position + 1) true first rest).layout.le_start k.piece
      (List.mem_map_of_mem (List.mem_of_mem_head? hk))
    have hgap : position < k.start := Int.lt_of_add_one_le hle
    rw [hhead k hk]
    exact ⟨fun _ => .inr hgap, fun _ => .inl rfl⟩
  | case3 position spaced first c rest hc n ih =>
    obtain ⟨hhead, hchain⟩ := ih
    have hsolid : IsSolid (c :: rest) n := tokenLength_isSolid (Bool.eq_false_iff.mpr hc) rest
    have hlength : ((c :: rest).take n).length = n := List.length_take_of_le hsolid.1
    refine ⟨?_, List.isChain_cons.mpr ⟨fun k hk => ⟨position + n, ?_, ?_⟩, hchain⟩⟩
    · rw [List.head?_cons]
      intro k hk
      obtain rfl := Option.some.inj hk
      simp only [Int.lt_irrefl, or_false]
    · exact congrArg (fun length : Nat => Except.ok (position + (length : Int))) hlength
    · rw [hhead k hk]
      simp only [Bool.false_eq_true, false_or]

end Text

end Copyedit
