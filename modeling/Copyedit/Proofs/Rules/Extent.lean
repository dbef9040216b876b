import Copyedit.Proofs.Outcome
import Copyedit.Proofs.Rules.Repetition
import Copyedit.Proofs.Rules.Spacing
import Copyedit.Proofs.Sentence.Placement
import Copyedit.Rules.Basic
import Mathlib.Data.List.Flatten

/-!
# What rules report

The rules on words report stretches from token to token: of one token (`ReplacementRule.findings_spans`,
`SpellingRule.findings_spans`), of two neighbours (`RepetitionRule.findings_spans`), of all tokens of a
sentence (`LongSentence.findings_spans`), or of tokens of one paragraph (`LongParagraph.findings_spans`).
-/

namespace Copyedit

variable {tokens : List Token} {found : List Finding}

/-! ### One token after the other -/

/-- Rules that look at one token after the other report tokens. -/
theorem spans_of_forall_token (run : Token → Nat → Except Error (List Finding))
    (hrun : ∀ k i found, run k i = .ok found → ∀ f ∈ found, f.start = k.start ∧ k.stop = .ok f.stop)
    (h : (tokens.zipIdx.mapM fun (k, i) => run k i) >>= (fun parts => pure parts.flatten) = .ok found) :
    ∀ f ∈ found, f.Spans tokens := by
  refine forall_mem_of_mapM_flatten (fun ⟨k, i⟩ hk part hpart f hf => ?_) h
  obtain ⟨hstart, hstop⟩ := hrun k i part hpart f hf
  have hget := List.mem_zipIdx_iff_getElem?.mp hk
  exact ⟨i, i, k, k, Nat.le_refl i, hget, hget, hstart, hstop⟩

namespace ReplacementRule

variable {r : ReplacementRule}

theorem tokenFindings_extent {k : Token} {i : Nat} (h : r.tokenFindings k i = .ok found) :
    ∀ f ∈ found, f.rule = r.id ∧ f.start = k.start ∧ k.stop = .ok f.stop := by
  unfold tokenFindings at h
  split at h
  · obtain rfl := Except.ok.inj h
    exact List.forall_mem_nil _
  · dsimp only at h
    split at h
    · obtain rfl := Except.ok.inj h
      exact List.forall_mem_nil _
    · obtain ⟨message, -, h⟩ := bind_ok_iff.mp h
      obtain ⟨stop, hstop, rfl⟩ := map_ok_iff.mp h
      exact List.forall_mem_singleton.mpr ⟨rfl, rfl, hstop⟩

theorem findings_spans {s : Sentence} (h : r.findings s = .ok found) : ∀ f ∈ found, f.Spans s.tokens :=
  spans_of_forall_token r.tokenFindings (fun _ _ _ h f hf => (tokenFindings_extent h f hf).2) h

theorem rule_of_mem_findings {s : Sentence} (h : r.findings s = .ok found) :
    ∀ f ∈ found, f.rule = r.id :=
  forall_mem_of_mapM_flatten (fun _ _ _ h f hf => (tokenFindings_extent h f hf).1) h

end ReplacementRule

namespace SpellingRule

variable {S : Type} [LT S] [DecidableLT S] {r : SpellingRule S}

theorem tokenFindings_extent {s : Sentence} {k : Token} {i : Nat}
    (h : r.tokenFindings s k i = .ok found) :
    ∀ f ∈ found, f.rule = r.options.id ∧ f.start = k.start ∧ k.stop = .ok f.stop := by
  unfold tokenFindings at h
  obtain ⟨word, -, h⟩ := bind_ok_iff.mp h
  obtain ⟨isSkipped, -, h⟩ := bind_ok_iff.mp h
  split at h
  · obtain rfl := Except.ok.inj h
    exact List.forall_mem_nil _
  · obtain ⟨stop, hstop, h⟩ := bind_ok_iff.mp h
    obtain ⟨suggestions, -, rfl⟩ := map_ok_iff.mp h
    exact List.forall_mem_singleton.mpr ⟨rfl, rfl, hstop⟩

theorem findings_spans {s : Sentence} (h : r.findings s = .ok found) : ∀ f ∈ found, f.Spans s.tokens :=
  spans_of_forall_token (r.tokenFindings s) (fun _ _ _ h f hf => (tokenFindings_extent h f hf).2) h

theorem rule_of_mem_findings {s : Sentence} (h : r.findings s = .ok found) :
    ∀ f ∈ found, f.rule = r.options.id :=
  forall_mem_of_mapM_flatten (fun _ _ _ h f hf => (tokenFindings_extent h f hf).1) h

end SpellingRule

/-! ### Neighbours -/

theorem RepetitionRule.findings_spans {r : RepetitionRule} {s : Sentence} (h : r.findings s = .ok found) :
    ∀ f ∈ found, f.Spans s.tokens := by
  intro f hf
  obtain ⟨i, a, b, ha, hb, -, hpair⟩ := (findingsFrom_isReport h).pair f hf
  exact ⟨i, i + 1, a, b, Nat.le_succ i, ha, hb, hpair.start_eq, hpair.stop_eq⟩

/-! ### Sentences and paragraphs -/

theorem LongSentence.findings_spans {l : WordLimit} {s : Sentence}
    (h : LongSentence.findings l s = .ok found) : ∀ f ∈ found, f.Spans s.tokens := by
  unfold LongSentence.findings at h
  obtain ⟨areWords, -, h⟩ := bind_ok_iff.mp h
  dsimp only at h
  split at h
  · rename_i first last hfirst hlast
    split at h
    · obtain ⟨stop, hstop, rfl⟩ := map_ok_iff.mp h
      rw [List.head?_eq_getElem?] at hfirst
      rw [List.getLast?_eq_getElem?] at hlast
      exact List.forall_mem_singleton.mpr ⟨0, _, first, last, Nat.zero_le _, hfirst, hlast, rfl, hstop⟩
    · obtain rfl := Except.ok.inj h
      exact List.forall_mem_nil _
  · obtain rfl := Except.ok.inj h
    exact List.forall_mem_nil _

namespace LongParagraph

/-- The words are some of the tokens, in their order. -/
theorem wordsOf_sublist {words : List Token} (h : wordsOf tokens = .ok words) : words.Sublist tokens := by
  induction tokens generalizing words with
  | nil =>
    obtain rfl := Except.ok.inj h
    exact List.Sublist.refl []
  | cons k rest ih =>
    obtain ⟨isWord, -, h⟩ := bind_ok_iff.mp h
    split at h
    · obtain ⟨others, hothers, rfl⟩ := map_ok_iff.mp h
      exact (ih hothers).cons_cons k
    · exact (ih h).cons k

theorem paragraphFindings_spans {l : WordLimit} {paragraph : List Sentence}
    (h : paragraphFindings l paragraph = .ok found) :
    ∀ f ∈ found, f.Spans (paragraph.flatMap (·.tokens)) := by
  unfold paragraphFindings at h
  obtain ⟨words, hwords, h⟩ := bind_ok_iff.mp h
  have hsub := wordsOf_sublist hwords
  split at h
  · obtain rfl := Except.ok.inj h
    exact List.forall_mem_nil _
  · split at h
    · rename_i first last hfirst hlast
      obtain ⟨stop, hstop, rfl⟩ := map_ok_iff.mp h
      rw [List.head?_eq_getElem?] at hfirst
      refine List.forall_mem_singleton.mpr (Finding.Spans.of_sublist hsub ?_)
      exact ⟨0, _, first, last, Nat.zero_le _, hfirst, hlast, rfl, hstop⟩
    · obtain rfl := Except.ok.inj h
      exact List.forall_mem_nil _

/-- The paragraphs are all sentences, in their order. -/
theorem flatten_paragraphs (sentences : List Sentence) (text : Option Text) :
    (paragraphs sentences text).flatten = sentences := by
  have hadd : ∀ (s : Sentence) (ps : List (List Sentence)),
      (addSentence text s ps).flatten = s :: ps.flatten := by
    intro s ps
    unfold addSentence
    split
    · split <;> rfl
    · rfl
  unfold paragraphs
  induction sentences with
  | nil => rfl
  | cons s rest ih => rw [List.foldr_cons, hadd, ih]

theorem findings_spans {l : WordLimit} {sentences : List Sentence} {text : Option Text}
    (h : findings l sentences text = .ok found) : ∀ f ∈ found, f.Spans (sentences.flatMap (·.tokens)) := by
  refine forall_mem_of_mapM_flatten (fun paragraph hparagraph part hpart f hf => ?_) h
  have hsub : paragraph.Sublist sentences :=
    flatten_paragraphs sentences text ▸ List.sublist_flatten_of_mem hparagraph
  exact (paragraphFindings_spans hpart f hf).of_sublist (List.Sublist.flatMap hsub _)

end LongParagraph

/-! ### Spaces -/

namespace Spacing

theorem findings_isPlaced {s : Sentence} (hs : IsTokenized s.start s.text s.tokens)
    (h : findings s = .ok found) :
    ∀ f ∈ found, IsPlaced s.start s.text (s.tokens.map Token.piece) f.start f.stop := by
  intro f hf
  obtain ⟨⟨first, stop⟩, hmem, hreport⟩ := exists_of_mem_mapM h hf
  obtain ⟨stops, -, rfl⟩ := map_ok_iff.mp hreport
  have hrun := mem_runs_iff.mp hmem
  have hlong := hrun.length
  -- only the first blank and the last one are needed
  have hblank : ∀ n, first ≤ n → n < stop → ∃ hn : n < s.text.length, isBlank s.text[n] = true := by
    intro n hle hlt
    obtain ⟨c, hc, hspace⟩ := hrun.spaces n hle hlt
    obtain ⟨hn, rfl⟩ := List.getElem?_eq_some_iff.mp hc
    exact ⟨hn, isBlank_of_isSpace hspace⟩
  obtain ⟨_, hfirst⟩ := hblank first (Nat.le_refl _) (by omega)
  obtain ⟨hlt, hlast⟩ := hblank (stop - 1) (by omega) (by omega)
  have hplaced := hs.layout.isPlaced_blanks hs.piece_solid (by omega) hlt hfirst hlast
  have hstop : s.start + (stop - 1 : Nat) + 1 = s.start + stop := by omega
  rwa [hstop] at hplaced

end Spacing

end Copyedit
