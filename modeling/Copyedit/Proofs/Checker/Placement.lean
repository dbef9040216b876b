import Copyedit.Proofs.Checker.Report
import Copyedit.Proofs.Pattern.Extent
import Copyedit.Proofs.Rules.Identity

/-!
# Where findings lie

With the splitter and the tokenizer of the library, a tagger that does nothing but add readings, and no
disambiguator (`Profile.IsPlain`), the sentences of a text are made of their tokens and of blanks, and so is
the text (`analyzed_isTokenized`).  What the rules of the library report on a sentence
is placed in it (`Rule.findings_isPlaced`), what they report on the text is placed in the text
(`Rule.findingsIn_spans`), and a report lists findings by the sentence in which they start.  The main
statement `report_areInPlace` puts that together.
-/

namespace Copyedit

/-! ### Rules -/

namespace Rule

variable {r : Rule} {found : List Finding}

/-- What a rule of the library reports on a sentence is placed in it. -/
theorem findings_isPlaced (hown : r.isOwn = true) (hlevel : r.isTextLevel = false) {s : Sentence}
    (hs : IsTokenized s.start s.text s.tokens) (h : r.findings s = .ok found) :
    ∀ f ∈ found, IsPlaced s.start s.text (s.tokens.map Token.piece) f.start f.stop := by
  cases r with
  | pattern r => exact fun f hf => (Pattern.Rule.findings_spans h f hf).isPlaced hs
  | replacement r => exact fun f hf => (ReplacementRule.findings_spans h f hf).isPlaced hs
  | spelling r => exact fun f hf => (SpellingRule.findings_spans h f hf).isPlaced hs
  | repetition r => exact fun f hf => (RepetitionRule.findings_spans h f hf).isPlaced hs
  | spacing => exact Spacing.findings_isPlaced hs h
  | longSentence l => exact fun f hf => (LongSentence.findings_spans h f hf).isPlaced hs
  | longParagraph l => cases hlevel
  | foreign r => cases hown

/-- What a rule of the library reports on a text goes from token to token. -/
theorem findingsIn_spans (hown : r.isOwn = true) (hlevel : r.isTextLevel = true)
    {sentences : List Sentence} {text : Option Text} (h : r.findingsIn sentences text = .ok found) :
    ∀ f ∈ found, f.Spans (sentences.flatMap (·.tokens)) := by
  cases r with
  | longParagraph l => exact LongParagraph.findings_spans h
  | foreign r => cases hown
  | _ => cases hlevel

end Rule

/-! ### Profiles -/

/-- A tagger adds readings to tokens, and all else is as it was. -/
def Tagger.AddsReadings (g : Tagger) : Prop :=
  ∀ tokens, List.Forall₂ (fun k tagged => ∃ more, tagged = k.withReadings (k.readings ++ more))
    tokens (g tokens)

/-- Tagging by a lexicon does that. -/
theorem Lexicon.addsReadings_tag (l : Lexicon) : Tagger.AddsReadings l.tag := fun _ =>
  List.forall₂_map_right_iff.mpr (List.forall₂_same.mpr fun _ _ => ⟨_, rfl⟩)

/-- A profile with the splitter and the tokenizer of the library.  A tagger, if there is one, adds readings,
and nothing chooses among them. -/
structure Profile.IsPlain (p : Profile) : Prop where
  /-- The splitter is that of the library. -/
  split_eq : p.split = Text.sentences
  /-- The tokenizer is that of the library. -/
  tokenize_eq : p.tokenize = @Text.tokens
  /-- The tagger adds readings. -/
  addsReadings : ∀ g, p.tagger = some g → g.AddsReadings
  /-- There is no disambiguator. -/
  disambiguator_eq : p.disambiguator = none

/-! ### Sentences with their tokens -/

/-- Tokens with more readings are where they were. -/
theorem IsTokenized.tag {p : Int} {t : Text} {tokens : List Token} (h : IsTokenized p t tokens)
    {g : Tagger} (hg : g.AddsReadings) : IsTokenized p t (g tokens) := by
  -- a layout tells where texts stand and nothing of readings
  have hpieces : List.Forall₂ Eq (tokens.map Token.piece) ((g tokens).map Token.piece) :=
    List.forall₂_map_left_iff.mpr (List.forall₂_map_right_iff.mpr
      ((hg tokens).imp fun _ _ ⟨_, hk⟩ => hk ▸ rfl))
  rw [List.forall₂_eq_eq_eq] at hpieces
  refine ⟨hpieces ▸ h.layout, fun tagged htagged => ?_⟩
  obtain ⟨k, hk, more, rfl⟩ := exists_of_mem_forall₂ (hg tokens) htagged
  exact h.solid k hk

/-- A position lies in the sentence with an index. -/
def LiesIn (sentences : List Sentence) (i : Nat) (x : Int) : Prop :=
  ∃ s, sentences[i]? = some s ∧ s.start ≤ x ∧ x < s.start + s.text.length

/-- Sentences come in order and do not overlap. -/
def AreApart (sentences : List Sentence) : Prop :=
  sentences.Pairwise fun a b => a.start + (a.text.length : Int) ≤ b.start

section Sentences

variable {sentences : List Sentence} {i j : Nat} {x : Int}

theorem AreApart.stop_le (hapart : AreApart sentences) {a b : Sentence} (ha : sentences[i]? = some a)
    (hb : sentences[j]? = some b) (hlt : i < j) : a.start + (a.text.length : Int) ≤ b.start := by
  obtain ⟨hi, rfl⟩ := List.getElem?_eq_some_iff.mp ha
  obtain ⟨hj, rfl⟩ := List.getElem?_eq_some_iff.mp hb
  exact List.pairwise_iff_getElem.mp hapart i j hi hj hlt

/-- Sentences that are apart contain different positions. -/
theorem LiesIn.index_le (hapart : AreApart sentences) (hi : LiesIn sentences i x)
    (hj : LiesIn sentences j x) : i ≤ j := by
  obtain ⟨a, ha, hstart, -⟩ := hi
  obtain ⟨b, hb, -, hstop⟩ := hj
  by_contra hlt
  have := hapart.stop_le hb ha (Nat.lt_of_not_le hlt)
  omega

/-- A finding that lies in a sentence is filed under that one. -/
theorem LiesIn.eq_of_startsIn (hapart : AreApart sentences) {f : Finding}
    (hi : LiesIn sentences i f.start) {e : Sentence × Nat} (he : e ∈ sentences.zipIdx)
    (hstarts : Checker.startsIn sentences e f = true) : i = e.2 := by
  obtain ⟨s, k⟩ := e
  obtain ⟨a, ha, hstart, hstop⟩ := hi
  have hs : sentences[k]? = some s := List.mem_zipIdx_iff_getElem?.mp he
  unfold Checker.startsIn at hstarts
  dsimp only at hstarts ⊢
  rw [Bool.and_eq_true, Bool.or_eq_true, decide_eq_true_eq, decide_eq_true_eq] at hstarts
  obtain ⟨hfrom, hbefore⟩ := hstarts
  rcases Nat.lt_trichotomy i k with hlt | heq | hgt
  · -- it would start before the sentence under which it is filed
    have := hapart.stop_le ha hs hlt
    omega
  · exact heq
  · -- it would not start before the next one
    obtain ⟨hlength, -⟩ := List.getElem?_eq_some_iff.mp ha
    have hnext : k + 1 < sentences.length := by omega
    have hget := List.getElem?_eq_getElem hnext
    rw [hget, Option.all_some, decide_eq_true_eq] at hbefore
    rcases Nat.lt_or_eq_of_le (show k + 1 ≤ i by omega) with hlt | rfl
    · have := hapart.stop_le hget ha hlt
      omega
    · obtain rfl := Option.some.inj (hget.symm.trans ha)
      omega

end Sentences

namespace Checker

variable {c : Checker} {t : Text}

theorem analyzeSentence_isTokenized (hplain : c.profile.IsPlain) (text : Text)
    (position : Int) : IsTokenized position text (c.analyzeSentence text position).tokens := by
  have htokens : IsTokenized position text (text.tokens position) :=
    Text.tokensFrom_isTokenized position false true text
  unfold analyzeSentence
  dsimp only
  rw [hplain.tokenize_eq, hplain.disambiguator_eq, Option.map_none, Option.getD_none]
  cases htagger : c.profile.tagger with
  | none => exact htokens
  | some g =>
    rw [Option.map_some, Option.getD_some]
    exact htokens.tag (hplain.addsReadings g htagger)

/-- A sentence as a piece of its text. -/
def piece (s : Sentence) : Piece := ⟨s.start, s.text⟩

theorem analyzed_layout (hplain : c.profile.IsPlain) :
    Layout 0 t ((c.analyzed t).map piece) := by
  unfold analyzed
  rw [hplain.split_eq, List.map_map]
  exact Text.sentences_layout t

theorem isTokenized_of_mem_analyzed (hplain : c.profile.IsPlain) {s : Sentence}
    (hs : s ∈ c.analyzed t) : IsTokenized s.start s.text s.tokens := by
  obtain ⟨e, -, rfl⟩ := List.mem_map.mp hs
  exact analyzeSentence_isTokenized hplain e.2 e.1

/-- A text is made of the tokens of its sentences and of blanks. -/
theorem analyzed_isTokenized (hplain : c.profile.IsPlain) :
    IsTokenized 0 t ((c.analyzed t).flatMap (·.tokens)) :=
  .flatMap (analyzed_layout hplain) fun _ hs => isTokenized_of_mem_analyzed hplain hs

theorem analyzed_apart (hplain : c.profile.IsPlain) : AreApart (c.analyzed t) :=
  List.pairwise_map.mp (analyzed_layout hplain).pairwise

/-! ### Findings -/

section Findings

variable {f : Finding}

theorem isPlaced_of_mem_foundOn (hplain : c.profile.IsPlain)
    (hown : ∀ r ∈ c.rules, r.isOwn = true) {s : Sentence} (hs : s ∈ c.analyzed t)
    (hf : f ∈ c.foundOn s) :
    IsPlaced s.start s.text (s.tokens.map Token.piece) f.start f.stop := by
  obtain ⟨_, ho, hf⟩ := List.mem_flatMap.mp hf
  obtain ⟨r, hr, rfl⟩ := List.mem_map.mp ho
  obtain ⟨found, hfound, hf⟩ := Outcome.mem_found.mp hf
  obtain ⟨hr, hlevel⟩ := List.mem_filter.mp hr
  have hs := isTokenized_of_mem_analyzed hplain hs
  exact Rule.findings_isPlaced (hown r hr) ((Bool.not_eq_true' _).mp hlevel) hs hfound f hf

theorem spans_of_mem_foundIn (hown : ∀ r ∈ c.rules, r.isOwn = true) {sentences : List Sentence}
    {text : Option Text} (hf : f ∈ c.foundIn sentences text) :
    f.Spans (sentences.flatMap (·.tokens)) := by
  obtain ⟨_, ho, hf⟩ := List.mem_flatMap.mp hf
  unfold textOutcomes at ho
  split at ho
  · cases ho
  · obtain ⟨r, hr, rfl⟩ := List.mem_map.mp ho
    obtain ⟨found, hfound, hf⟩ := Outcome.mem_found.mp hf
    obtain ⟨hr, hlevel⟩ := List.mem_filter.mp hr
    exact Rule.findingsIn_spans (hown r hr) hlevel hfound f hf

/-- What is placed in a sentence is placed in the text. -/
theorem isPlaced_analyzed (hplain : c.profile.IsPlain) {s : Sentence} (hs : s ∈ c.analyzed t)
    (h : IsPlaced s.start s.text (s.tokens.map Token.piece) f.start f.stop) :
    IsPlaced 0 t (((c.analyzed t).flatMap (·.tokens)).map Token.piece) f.start f.stop := by
  rw [List.map_flatMap]
  exact .flatMap (analyzed_layout hplain)
    (fun _ hs => (isTokenized_of_mem_analyzed hplain hs).layout) hs h

/-- A stretch from token to token starts in a sentence. -/
theorem exists_liesIn_of_spans (hplain : c.profile.IsPlain)
    (h : f.Spans ((c.analyzed t).flatMap (·.tokens))) : ∃ i, LiesIn (c.analyzed t) i f.start := by
  obtain ⟨_, _, a, _, -, ha, -, hstart, -⟩ := h
  obtain ⟨s, hs, ha⟩ := List.mem_flatMap.mp (List.mem_of_getElem? ha)
  obtain ⟨i, hi⟩ := List.mem_iff_getElem?.mp hs
  have hbounds := (isTokenized_of_mem_analyzed hplain hs).layout.bounds (List.mem_map_of_mem ha)
  refine ⟨i, s, hi, hstart ▸ hbounds.1, ?_⟩
  rw [hstart]
  exact Int.lt_of_lt_of_le hbounds.2.1 hbounds.2.2

/-- What is listed for a sentence starts in it. -/
theorem liesIn_of_mem_group (hplain : c.profile.IsPlain) (hown : ∀ r ∈ c.rules, r.isOwn = true)
    {e : Sentence × Nat} (he : e ∈ (c.analyzed t).zipIdx)
    (hf : f ∈ c.foundOn e.1 ++
      (c.foundIn (c.analyzed t) (some t)).filter (startsIn (c.analyzed t) e)) :
    LiesIn (c.analyzed t) e.2 f.start := by
  have hget := List.mem_zipIdx_iff_getElem?.mp he
  rcases List.mem_append.mp hf with hf | hf
  · -- found on the sentence itself
    have hplaced := isPlaced_of_mem_foundOn hplain hown (List.mem_of_getElem? hget) hf
    exact ⟨e.1, hget, hplaced.le_start, Int.lt_of_lt_of_le hplaced.start_lt_stop hplaced.stop_le⟩
  · -- found on the text, and filed under the sentence
    obtain ⟨hf, hstarts⟩ := List.mem_filter.mp hf
    obtain ⟨i, hi⟩ := exists_liesIn_of_spans hplain (spans_of_mem_foundIn hown hf)
    exact hi.eq_of_startsIn (analyzed_apart hplain) he hstarts ▸ hi

/-- What is listed was found on a sentence or on the text. -/
theorem found_of_mem_merged (hf : f ∈ c.merged (c.analyzed t) (some t)) :
    (∃ s ∈ c.analyzed t, f ∈ c.foundOn s) ∨ f ∈ c.foundIn (c.analyzed t) (some t) := by
  obtain ⟨e, he, hf⟩ := List.mem_flatMap.mp hf
  rcases List.mem_append.mp hf with hf | hf
  · exact .inl ⟨e.1, List.mem_of_getElem? (List.mem_zipIdx_iff_getElem?.mp he), hf⟩
  · exact .inr (List.mem_filter.mp hf).1

/-- What is listed is placed in the text. -/
theorem isPlaced_of_mem_merged (hplain : c.profile.IsPlain) (hown : ∀ r ∈ c.rules, r.isOwn = true)
    (hf : f ∈ c.merged (c.analyzed t) (some t)) :
    IsPlaced 0 t (((c.analyzed t).flatMap (·.tokens)).map Token.piece) f.start f.stop := by
  rcases found_of_mem_merged hf with ⟨s, hs, hf⟩ | hf
  · exact isPlaced_analyzed hplain hs (isPlaced_of_mem_foundOn hplain hown hs hf)
  · exact (spans_of_mem_foundIn hown hf).isPlaced (analyzed_isTokenized hplain)

end Findings

/-- The sentences in which the listed findings start come in order. -/
theorem merged_ordered (hplain : c.profile.IsPlain) (hown : ∀ r ∈ c.rules, r.isOwn = true) :
    (c.merged (c.analyzed t) (some t)).Pairwise fun f g => ∀ i j,
      LiesIn (c.analyzed t) i f.start → LiesIn (c.analyzed t) j g.start → i ≤ j := by
  have hapart := analyzed_apart (t := t) hplain
  refine List.pairwise_flatMap.mpr ⟨fun e he => ?_, ?_⟩
  · -- what is listed for one sentence starts in the same one
    refine List.pairwise_of_forall_mem_list fun f hf g hg i j hi hj => ?_
    have hf := liesIn_of_mem_group hplain hown he hf
    have hg := liesIn_of_mem_group hplain hown he hg
    exact (hi.index_le hapart hf).trans (hg.index_le hapart hj)
  · have hindexes : (c.analyzed t).zipIdx.Pairwise fun a b => a.2 < b.2 :=
      List.pairwise_map.mp (List.zipIdx_map_snd 0 (c.analyzed t) ▸ List.pairwise_lt_range' 1)
    refine hindexes.imp_of_mem fun {a b} ha hb hlt f hf g hg i j hi hj => ?_
    have hf := liesIn_of_mem_group hplain hown ha hf
    have hg := liesIn_of_mem_group hplain hown hb hg
    exact ((hi.index_le hapart hf).trans (Nat.le_of_lt hlt)).trans (hg.index_le hapart hj)

/-! ### Main statement -/

/-- Findings lie where they should in a text. -/
structure AreInPlace (c : Checker) (t : Text) (findings : List Finding) : Prop where
  /-- Each lies in the text and has characters. -/
  in_text : ∀ f ∈ findings, 0 ≤ f.start ∧ f.start < f.stop ∧ f.stop ≤ t.length
  /-- None begins or ends inside a token. -/
  fits_tokens : ∀ f ∈ findings, ∀ s ∈ c.analyzed t, ∀ k ∈ s.tokens, ∃ stop, k.stop = .ok stop ∧
    ¬ (k.start < f.start ∧ f.start < stop) ∧ ¬ (k.start < f.stop ∧ f.stop < stop)
  /-- Each was found on a sentence or on the text. -/
  origin : ∀ f ∈ findings,
    (∃ s ∈ c.analyzed t, f ∈ c.foundOn s) ∨ f ∈ c.foundIn (c.analyzed t) (some t)
  /-- What was found on a sentence lies in it. -/
  in_sentence : ∀ s ∈ c.analyzed t, ∀ f ∈ c.foundOn s,
    s.start ≤ f.start ∧ f.stop ≤ s.start + s.text.length
  /-- Each starts in a sentence. -/
  starts_in_sentence : ∀ f ∈ findings, ∃ i, LiesIn (c.analyzed t) i f.start
  /-- The sentences in which they start come in order. -/
  ordered : findings.Pairwise fun f g => ∀ i j,
    LiesIn (c.analyzed t) i f.start → LiesIn (c.analyzed t) j g.start → i ≤ j

theorem merged_areInPlace (hplain : c.profile.IsPlain) (hown : ∀ r ∈ c.rules, r.isOwn = true) :
    c.AreInPlace t (c.merged (c.analyzed t) (some t)) where
  in_text f hf := by
    have h := isPlaced_of_mem_merged hplain hown hf
    have hstop := h.stop_le
    exact ⟨h.le_start, h.start_lt_stop, by omega⟩
  fits_tokens f hf s hs k hk := by
    have h := isPlaced_of_mem_merged hplain hown hf
    have hmem : k ∈ (c.analyzed t).flatMap (·.tokens) := List.mem_flatMap.mpr ⟨s, hs, hk⟩
    have hstart := h.start_free k.piece (List.mem_map_of_mem hmem)
    have hstop := h.stop_free k.piece (List.mem_map_of_mem hmem)
    have hpiece : k.piece.start = k.start := rfl
    exact ⟨k.piece.stop, (analyzed_isTokenized hplain).stop_eq hmem, by omega, by omega⟩
  origin _ hf := found_of_mem_merged hf
  in_sentence s hs f hf := by
    have h := isPlaced_of_mem_foundOn hplain hown hs hf
    exact ⟨h.le_start, h.stop_le⟩
  starts_in_sentence f hf := by
    obtain ⟨e, he, hf⟩ := List.mem_flatMap.mp hf
    exact ⟨e.2, liesIn_of_mem_group hplain hown he hf⟩
  ordered := merged_ordered hplain hown

/-- **Findings in place.** A checker with a plain profile and with rules of the library alone reports
stretches of the text that have characters and neither begin nor end inside a token.  What it finds on a sentence lies in that sentence, and the sentences in which its findings start
come in order. -/
theorem report_areInPlace (c : Checker) (t : Text) (hplain : c.profile.IsPlain) (hown : ∀ r ∈ c.rules, r.isOwn = true) {r : Report}
    (h : c.check (some t) = .ok r) : c.AreInPlace t r.findings := by
  have hsorted := pairwise_start_analyzed c (t := t) (hplain.split_eq ▸ Text.sentences_ascend t)
  rw [check_eq] at h
  rw [← eq_of_unlessStopped_eq_ok h, (reportOn_isReport c hsorted (some t)).findings_eq]
  exact merged_areInPlace hplain hown

/-- A checker with a small lexicon and low limits. -/
def strictReader : Checker where
  profile := { Profile.generic with
    tagger := some (Lexicon.ofEntries [("cat".toList, [⟨some "cat".toList, some "NN".toList⟩])]).tag }
  settings := .standard
  rules := [.longParagraph ⟨3, by decide⟩, .repetition (.make []), .spacing, .longSentence ⟨2, by decide⟩]

theorem report_strictReader :
    strictReader.profile.IsPlain ∧
      (∀ r ∈ strictReader.rules, r.isOwn = true) ∧
      ∃ r, strictReader.check (some "The the  cat. It sat\n\n down.".toList) = .ok r ∧
        strictReader.AreInPlace "The the  cat. It sat\n\n down.".toList r.findings ∧
        r.findings.map (fun f => (f.start, f.stop)) = [(0, 7), (7, 9), (0, 13), (0, 12)] := by
  have hplain : strictReader.profile.IsPlain :=
    ⟨rfl, rfl, fun g hg => Option.some.inj hg ▸ Lexicon.addsReadings_tag _, rfl⟩
  have hcheck : strictReader.check (some "The the  cat. It sat\n\n down.".toList) =
      .ok (strictReader.reportOn (strictReader.analyzed "The the  cat. It sat\n\n down.".toList) _) :=
    (strictReader.check_eq _).trans (unlessStopped_of_ne (by decide) _)
  refine ⟨hplain, by decide, _, hcheck, report_areInPlace strictReader _ hplain (by decide) hcheck, ?_⟩
  decide +kernel

end Checker

end Copyedit
