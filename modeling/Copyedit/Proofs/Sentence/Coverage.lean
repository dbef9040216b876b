import Copyedit.Proofs.Sentence.Split
import Copyedit.Proofs.Sentence.Tokenize

/-!
# The sentences and tokens of a text cover it

A text is made of its sentences and of blanks, and each sentence of its tokens and of blanks, so the text
is made of the tokens of all its sentences and of blanks (`sentenceTokens_isTokenized`).  The main statement
`sentences_tokens_cover` spells out what that means for positions: nothing but blanks is lost, and nothing
comes twice.
-/

namespace Copyedit

/-- What stands at a piece's position in a document is its text. -/
theorem Layout.exists_slice {t : Text} {ps : List Piece} {q : Piece} (h : Layout 0 t ps) (hq : q ∈ ps) :
    ∃ n : Nat, q.start = n ∧ t.slice n (n + q.text.length) = q.text := by
  obtain ⟨-, before, after, rfl, hstart⟩ := h.exists_append hq
  exact ⟨before.length, by rw [hstart, Int.zero_add], Text.slice_append before q.text after⟩

namespace Text

/-- The tokens of a text, sentence by sentence. -/
def sentenceTokens (t : Text) : List Token := t.sentences.flatMap fun e => e.2.tokens e.1

/-- A text is made of the tokens of its sentences and of blanks. -/
theorem sentenceTokens_isTokenized (t : Text) : IsTokenized 0 t t.sentenceTokens :=
  .flatMap (sentences_layout t) fun e _ => tokensFrom_isTokenized e.1 false true e.2

/-- A text with a character that is not blank has a token. -/
theorem tokens_ne_nil {s : Text} (h : IsTrimmed s) (offset : Int) : s.tokens offset ≠ [] := by
  intro hnil
  obtain ⟨hne, hhead, -⟩ := h
  have hlayout := (tokensFrom_isTokenized offset false true s).layout
  rw [show tokensFrom offset false true s = [] from hnil, List.map_nil] at hlayout
  cases hlayout with
  | blank hblank =>
    rw [hblank _ (List.head_mem hne)] at hhead
    cases hhead

/-! ### Main statement -/

/-- Sentences with their positions lie in a text: in order and apart from each other, and none is empty or
has a blank at an end. -/
structure HasSentences (t : Text) (sentences : List (Nat × Text)) : Prop where
  trimmed : ∀ e ∈ sentences, IsTrimmed e.2
  slice_eq : ∀ e ∈ sentences, t.slice e.1 (e.1 + e.2.length) = e.2
  ordered : sentences.Pairwise fun a b => a.1 + a.2.length ≤ b.1

/-- Tokens lie in a text: in order and apart from each other, and together they are all that is not
blank. -/
structure HasTokens (t : Text) (tokens : List Token) : Prop where
  text_eq : ∀ k ∈ tokens, ∃ (n : Nat) (w : Text), k.text = some w ∧ k.start = n ∧
    k.stop = .ok (n + w.length) ∧ w ≠ [] ∧ (∀ c ∈ w, isBlank c = false) ∧ t.slice n (n + w.length) = w
  ordered : tokens.Pairwise fun a b => ∃ stop, a.stop = .ok stop ∧ stop ≤ b.start
  cover : ∀ (n : Nat) (hn : n < t.length), isBlank t[n] = false ↔
    ∃ k ∈ tokens, ∃ stop, k.stop = .ok stop ∧ k.start ≤ n ∧ n < stop

theorem hasSentences_sentences (t : Text) : HasSentences t t.sentences where
  trimmed := sentences_trimmed t
  slice_eq e he := by
    obtain ⟨n, hn, hslice⟩ := (sentences_layout t).exists_slice (List.mem_map_of_mem he)
    obtain rfl : e.1 = n := Int.ofNat.inj hn
    exact hslice
  ordered := sentences_apart t

theorem hasTokens_sentenceTokens (t : Text) : HasTokens t t.sentenceTokens := by
  have htokens := sentenceTokens_isTokenized t
  constructor
  · intro k hk
    obtain ⟨w, hw, hsolid⟩ := htokens.solid k hk
    have hpiece := List.mem_map_of_mem (f := Token.piece) hk
    obtain ⟨n, hn, hslice⟩ := htokens.layout.exists_slice hpiece
    obtain ⟨hne, -⟩ := htokens.layout.exists_append hpiece
    have htext : k.piece.text = w := by rw [Token.piece, hw, Option.getD_some]
    rw [htext] at hslice hne
    refine ⟨n, w, hw, hn, ?_, hne, hsolid, hslice⟩
    rw [htokens.stop_eq hk, Piece.stop, htext, hn]
  · refine (List.pairwise_map.mp htokens.layout.pairwise).imp_of_mem fun {a b} ha _ hab => ?_
    exact ⟨_, htokens.stop_eq ha, hab⟩
  · intro n hn
    rw [htokens.layout.cover htokens.piece_solid hn, Int.zero_add]
    constructor
    · rintro ⟨_, hq, hle, hlt⟩
      obtain ⟨k, hk, rfl⟩ := List.mem_map.mp hq
      exact ⟨k, hk, _, htokens.stop_eq hk, hle, hlt⟩
    · rintro ⟨k, hk, stop, hstop, hle, hlt⟩
      rw [htokens.stop_eq hk] at hstop
      obtain rfl := Except.ok.inj hstop
      exact ⟨_, List.mem_map_of_mem hk, hle, hlt⟩

/-- **Coverage.** The sentences of a text lie in it in order and apart, trimmed and not empty; so do the
tokens of all sentences, which hold no blank and together every character that is not blank.  Hence each
sentence has a token, and each token of a sentence after its first says that a blank stands before it
exactly when there is a gap. -/
theorem sentences_tokens_cover (t : Text) :
    HasSentences t t.sentences ∧ HasTokens t t.sentenceTokens ∧
      ∀ e ∈ t.sentences, e.2.tokens e.1 ≠ [] ∧ (e.2.tokens e.1).IsChain fun a b =>
        ∃ stop, a.stop = .ok stop ∧ (b.spaceBefore = true ↔ stop < b.start) := by
  refine ⟨hasSentences_sentences t, hasTokens_sentenceTokens t, fun e he => ?_⟩
  obtain ⟨-, hchain⟩ := tokensFrom_spaceBefore e.1 false true e.2
  exact ⟨tokens_ne_nil (sentences_trimmed t e he) e.1, hchain⟩

end Text

end Copyedit
