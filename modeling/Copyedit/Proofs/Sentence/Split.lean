import Copyedit.Proofs.Parts
import Copyedit.Proofs.Sentence.Layout
import Copyedit.Sentence.Split

/-!
# Sentences of a text

The stretches between sentence boundaries are the whole text (`flatten_stretches`): a boundary leaves a
suffix of what it starts (`afterBoundary?_suffix`), whichever marks make it up, and one that is passed over
only goes on with the stretch under way.  As trimming removes blanks alone (`exists_append_trim`), the text is
made of its sentences and of blanks (`sentences_layout`), and no sentence is empty or has a blank at an end
(`sentences_trimmed`).
-/

namespace Copyedit

namespace Text

/-! ### Boundaries -/

theorem afterBlankLine?_suffix {t after : Text} (h : t.afterBlankLine? = some after) : after <:+ t := by
  unfold afterBlankLine? at h
  split at h
  · rename_i rest
    split at h
    · rename_i after' hrest
      obtain rfl := Option.some.inj h
      have hdrop : '\n' :: after' <:+ rest := hrest ▸ List.dropWhile_suffix isLineBlank
      exact ((List.suffix_cons '\n' after').trans hdrop).trans (List.suffix_cons '\n' rest)
    · cases h
  · cases h

theorem afterTerminal?_suffix {t after : Text} (h : t.afterTerminal? = some after) : after <:+ t := by
  unfold afterTerminal? at h
  split at h
  · cases h
  · rename_i c rest
    dsimp only at h
    split at h
    · split at h
      · obtain rfl := Option.some.inj h
        exact ((List.dropWhile_suffix isCloser).trans (List.dropWhile_suffix isTerminal)).trans
          (List.suffix_cons c rest)
      · cases h
    · cases h

theorem afterBoundary?_suffix {t after : Text} (h : t.afterBoundary? = some after) : after <:+ t := by
  unfold afterBoundary? at h
  rw [Option.orElse_eq_or] at h
  rcases Option.or_eq_some_iff.mp h with h | ⟨-, h⟩
  · exact afterBlankLine?_suffix h
  · exact afterTerminal?_suffix h

/-! ### Stretches -/

/-- The stretches are the whole text. -/
theorem flatten_stretches (seen t : Text) : (stretches seen t).flatten = seen.reverse ++ t := by
  -- a boundary ends the stretch under way; a character that starts none joins it
  fun_induction stretches seen t with
  | case1 seen => simp only [List.flatten_cons, List.flatten_nil]
  | case2 seen c rest after h ih =>
    have hsuffix := List.suffix_iff_eq_append.mp (afterBoundary?_suffix h)
    rw [List.flatten_cons, ih, List.reverse_nil, List.nil_append, List.append_assoc, hsuffix]
  | case3 seen c rest h ih => rw [ih, List.reverse_cons, List.append_assoc, List.singleton_append]

/-! ### Sentences -/

/-- A sentence as a piece of its text. -/
def sentencePiece (e : Nat × Text) : Piece := ⟨e.1, e.2⟩

theorem trimmedFrom_layout (position : Nat) (ss : List Text) :
    Layout position ss.flatten ((trimmedFrom position ss).map sentencePiece) := by
  induction ss generalizing position with
  | nil => exact .blank (List.forall_mem_nil _)
  | cons s rest ih =>
    have hrest := ih (position + s.length)
    rw [Int.natCast_add] at hrest
    rw [List.flatten_cons]
    unfold trimmedFrom
    dsimp only
    split
    · rename_i hempty
      exact Layout.blank_append (trim_eq_nil (List.isEmpty_iff.mp hempty)) hrest
    · rename_i hne
      -- the blanks behind the sentence go with what follows it
      obtain ⟨lead, trail, hs, hlength, hlead, htrail⟩ := exists_append_trim s
      rw [List.map_cons]
      have hpiece : sentencePiece (position + (s.length - s.trimStart.length), s.trim) =
          ⟨position + lead.length, s.trim⟩ := by
        unfold sentencePiece
        rw [← hlength, Int.natCast_add]
      have htext : s ++ rest.flatten = lead ++ (s.trim ++ (trail ++ rest.flatten)) := by
        conv_lhs => rw [hs]
        simp only [List.append_assoc]
      have hstop : (position : Int) + s.length =
          position + lead.length + s.trim.length + trail.length := by
        have h := congrArg List.length hs
        rw [List.length_append, List.length_append] at h
        omega
      rw [hpiece, htext]
      refine .piece hlead (fun h => hne (List.isEmpty_iff.mpr h)) ?_
      exact Layout.blank_append htrail (hstop ▸ hrest)

/-- A text is made of its sentences and of blanks. -/
theorem sentences_layout (t : Text) : Layout 0 t (t.sentences.map sentencePiece) := by
  have h := trimmedFrom_layout 0 (stretches [] t)
  rwa [flatten_stretches, List.reverse_nil, List.nil_append] at h

/-- The sentences come in order and do not overlap. -/
theorem sentences_apart (t : Text) : t.sentences.Pairwise fun a b => a.1 + a.2.length ≤ b.1 := by
  refine (List.pairwise_map.mp (sentences_layout t).pairwise).imp fun {a b} hab => ?_
  unfold Piece.stop sentencePiece at hab
  dsimp only at hab
  omega

/-- The sentences come in the order of their positions. -/
theorem sentences_ascend (t : Text) : t.sentences.Pairwise fun a b => a.1 ≤ b.1 :=
  (sentences_apart t).imp (Nat.le_add_right ..).trans

theorem trimmedFrom_trimmed (position : Nat) (ss : List Text) :
    ∀ e ∈ trimmedFrom position ss, IsTrimmed e.2 := by
  induction ss generalizing position with
  | nil => exact List.forall_mem_nil _
  | cons s rest ih =>
    unfold trimmedFrom
    dsimp only
    split
    · exact ih _
    · rename_i hne
      exact List.forall_mem_cons.mpr
        ⟨isTrimmed_trim fun h => hne (List.isEmpty_iff.mpr h), ih _⟩

/-- No sentence is empty or has a blank at an end. -/
theorem sentences_trimmed (t : Text) : ∀ e ∈ t.sentences, IsTrimmed e.2 :=
  trimmedFrom_trimmed 0 (stretches [] t)

end Text

end Copyedit
