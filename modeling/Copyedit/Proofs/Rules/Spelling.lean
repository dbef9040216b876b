import Copyedit.Proofs.Casing
import Copyedit.Proofs.Ranking.Ranker
import Copyedit.Proofs.Spelling.MultiSpeller
import Copyedit.Rules.Spelling

/-!
# Prohibited words among suggestions

The spelling rule takes the candidates of the least distance that yields any (`found_cases`) and leaves out
those with a prohibited correction.  Ranking and the cap on suggestions only reorder and cut what is left
(`exists_ranked`).

So no suggestion is prohibited as a whole.  One of its words may be, if the word was split in two or the
dictionary has an entry with a space (`suggestions_permitted`, `exists_prohibited_part`).

What is left out has stopped the search nonetheless.  For a word that is long enough there are no
candidates iff all that any distance yields are prohibited, or those of the least distance with any
are, and mask others at a greater one (`candidates_eq_nil_iff`, `exists_masked_candidate`).
-/

namespace Copyedit

namespace Spelling.Speller

variable {S : Type} {s : Speller} {word t : Text}

theorem space_mem_recase (h : ' ' ∈ s.recase word t) : ' ' ∈ t := by
  unfold recase at h
  split at h
  · exact Locale.space_mem_capitalize h
  · exact h

/-- Whether a speller finds a text of several words for a word: the word split in two, or an entry with a
space. -/
def FindsPhrase (s : Speller) (word t : Text) : Prop :=
  s.splitsRunOns = true ∧ t ∈ s.runOnSplits word ∨
    ' ' ∈ t ∧ ∃ q ∈ s.queries word, t ∈ s.dictionary.lookup q s.maxDistance

/-- A correction with a space is a text of several words in the casing of the word. -/
theorem exists_phrase {c : Candidate S} (hc : c ∈ s.candidates S word) (hspace : ' ' ∈ c.correction) :
    ∃ t, s.FindsPhrase word t ∧ s.recase word t = c.correction := by
  obtain ⟨⟨⟨n, t⟩, he, hcorrection, -⟩, -⟩ := candidates_least hc
  refine ⟨t, ?_, hcorrection⟩
  rcases mem_found_iff.mp he with ⟨q, hq, ht, -⟩ | ⟨hsplits, ht, -⟩
  · exact .inr ⟨space_mem_recase (hcorrection ▸ hspace), q, hq, ht⟩
  · exact .inl ⟨hsplits, ht⟩

end Spelling.Speller

namespace SpellingRule

open Spelling (Candidate MultiSpeller Speller Dictionary)
open Ranking (Ranker)

variable {S : Type} {r : SpellingRule S} {word : Text}

/-! ### The search -/

/-- The candidates from the least distance that yields any, prohibited ones among them. -/
def found (r : SpellingRule S) (word : Text) : List (Candidate S) :=
  (((r.spellersFor word.compose).map fun m => m.candidates S word.compose).find? (!·.isEmpty)).getD []

theorem candidates_eq_filter (r : SpellingRule S) (word : Text) :
    r.candidates word = (r.found word).filter fun c => !r.isProhibited c.correction :=
  rfl

theorem mem_candidates_iff {c : Candidate S} :
    c ∈ r.candidates word ↔ c ∈ r.found word ∧ r.isProhibited c.correction = false := by
  rw [candidates_eq_filter, List.mem_filter, Bool.not_eq_true']

theorem candidates_eq_nil_iff_found :
    r.candidates word = [] ↔ ∀ c ∈ r.found word, r.isProhibited c.correction = true := by
  rw [List.eq_nil_iff_forall_not_mem]
  simp only [mem_candidates_iff, not_and, Bool.not_eq_false]

/-- The search stops at the first speller with candidates. -/
theorem found_of_first {before after : List MultiSpeller} {m : MultiSpeller}
    (hspellers : r.spellersFor word.compose = before ++ m :: after)
    (hbefore : ∀ m' ∈ before, m'.candidates S word.compose = [])
    (hm : m.candidates S word.compose ≠ []) : r.found word = m.candidates S word.compose := by
  have hnone : before.find? ((!·.isEmpty) ∘ fun m => m.candidates S word.compose) = none := by
    rw [List.find?_eq_none]
    intro m' hm'
    rw [Function.comp_apply, hbefore m' hm']
    exact Bool.false_ne_true
  have hsome : ((!·.isEmpty) ∘ fun m => m.candidates S word.compose) m = true := by
    rw [Function.comp_apply, Bool.not_eq_true', List.isEmpty_eq_false_iff]
    exact hm
  rw [found, List.find?_map, hspellers, List.find?_append, hnone, Option.none_or,
    List.find?_cons_of_pos hsome]
  rfl

/-- Either no speller has candidates, or those of the first that has any are found. -/
theorem found_cases (r : SpellingRule S) (word : Text) :
    (r.found word = [] ∧ ∀ m ∈ r.spellersFor word.compose, m.candidates S word.compose = []) ∨
      ∃ before m after, r.spellersFor word.compose = before ++ m :: after ∧
        (∀ m' ∈ before, m'.candidates S word.compose = []) ∧ m.candidates S word.compose ≠ [] ∧
        r.found word = m.candidates S word.compose := by
  cases h : (r.spellersFor word.compose).find?
      ((!·.isEmpty) ∘ fun m => m.candidates S word.compose) with
  | none =>
    refine .inl ⟨?_, fun m hm => ?_⟩
    · rw [found, List.find?_map, h]
      rfl
    · have hempty := List.find?_eq_none.mp h m hm
      simpa using hempty
  | some m =>
    obtain ⟨hm, before, after, hspellers, hbefore⟩ := List.find?_eq_some_iff_append.mp h
    have hnonempty : m.candidates S word.compose ≠ [] := by simpa using hm
    have hempty : ∀ m' ∈ before, m'.candidates S word.compose = [] := by
      intro m' hm'
      simpa using hbefore m' hm'
    exact .inr ⟨before, m, after, hspellers, hempty, hnonempty,
      found_of_first hspellers hempty hnonempty⟩

theorem exists_speller_of_mem_found {c : Candidate S} (hc : c ∈ r.found word) :
    ∃ m ∈ r.spellersFor word.compose, c ∈ m.candidates S word.compose := by
  rcases found_cases r word with ⟨hnil, -⟩ | ⟨before, m, after, hspellers, -, -, hfound⟩
  · rw [hnil] at hc
    exact absurd hc List.not_mem_nil
  · exact ⟨m, hspellers ▸ List.mem_append_cons_self, hfound ▸ hc⟩

/-! ### Suggestions -/

section Suggestions

variable [LT S] [DecidableLT S] {context : List (Option Text)} {position : Int} {ts : List Text}

/-- The suggestions are the corrections of the candidates in some order, cut where there is a cap. -/
theorem exists_ranked (h : r.suggestions word context position = .ok ts) :
    ∃ ranked : List Text, ranked.Perm ((r.candidates word).map (·.correction)) ∧
      ts = if r.options.maxSuggestions = 0 then ranked
        else ranked.take r.options.maxSuggestions.toNat := by
  unfold suggestions at h
  dsimp only at h
  rw [ite_bind_eq] at h
  obtain ⟨ranked, hranked, rfl⟩ := map_ok_iff.mp h
  refine ⟨ranked.map (·.correction), ?_, rfl⟩
  split at hranked
  · rw [← Except.ok.inj hranked]
  · have hperm := (Ranker.rankCandidates_perm hranked).map Prod.fst
    rw [List.map_map, List.map_map] at hperm
    exact hperm

theorem mem_corrections_of_mem_suggestions (h : r.suggestions word context position = .ok ts)
    {t : Text} (ht : t ∈ ts) : t ∈ (r.candidates word).map (·.correction) := by
  obtain ⟨ranked, hperm, rfl⟩ := exists_ranked h
  split at ht
  · exact hperm.mem_iff.mp ht
  · exact hperm.mem_iff.mp (List.mem_of_mem_take ht)

/-- **Prohibited words.**  No suggestion is prohibited.  Nor is a word of one, unless the suggestion has
a space, as a word that was split in two or an entry with a space has.  Without a cap, all that was found
and is not prohibited is suggested. -/
theorem suggestions_permitted (h : r.suggestions word context position = .ok ts) :
    (∀ t ∈ ts, r.isProhibited t = false ∧
      ∀ part ∈ t.splitAtChar ' ', r.isProhibited part = true →
        ' ' ∈ t ∧ ∃ m ∈ r.spellersFor word.compose, ∃ s ∈ m.spellers, ∃ phrase,
          s.FindsPhrase word.compose phrase ∧ s.recase word.compose phrase = t) ∧
    (r.options.maxSuggestions = 0 →
      ∀ c ∈ r.found word, r.isProhibited c.correction = false → c.correction ∈ ts) := by
  constructor
  · intro t ht
    obtain ⟨c, hc, rfl⟩ := List.mem_map.mp (mem_corrections_of_mem_suggestions h ht)
    obtain ⟨hfound, hpermitted⟩ := mem_candidates_iff.mp hc
    refine ⟨hpermitted, fun part hpart hprohibited => ?_⟩
    have hspace : ' ' ∈ c.correction := by
      by_contra hnone
      rw [Text.splitAtChar_of_notMem hnone, List.mem_singleton] at hpart
      rw [hpart, hpermitted] at hprohibited
      cases hprohibited
    obtain ⟨m, hm, hcm⟩ := exists_speller_of_mem_found hfound
    obtain ⟨s, hs, hcs⟩ := MultiSpeller.exists_speller_of_mem_candidates hcm
    exact ⟨hspace, m, hm, s, hs, Speller.exists_phrase hcs hspace⟩
  · intro hcap c hc hpermitted
    obtain ⟨ranked, hperm, rfl⟩ := exists_ranked h
    rw [if_pos hcap, hperm.mem_iff]
    exact List.mem_map_of_mem (mem_candidates_iff.mpr ⟨hc, hpermitted⟩)

end Suggestions

/-! ### A word run together with a prohibited one -/

section Examples

/-- A list of "good" and "bad". -/
def goodAndBad : Dictionary :=
  ⟨0, .words (.ofEntries [⟨"good".toList, []⟩, ⟨"bad".toList, []⟩])⟩

/-- A rule that tries one edit and prohibits "bad". -/
def avoidsBad : SpellingRule Nat where
  options := { distances := [1], prohibited := ["bad".toList] }
  nearest := ⟨1, [MultiSpeller.englishOver goodAndBad 0]⟩
  wider := []
  ranker := ⟨none, 2⟩

theorem found_avoidsBad : avoidsBad.found "goodbad".toList = [⟨"good bad".toList, 1, none⟩] := by
  have hlookup : ∀ q ∈ (MultiSpeller.englishOver goodAndBad 0).queries "goodbad".toList,
      goodAndBad.lookup q 1 = [] := by
    refine List.forall_mem_singleton.mpr ?_
    exact Spelling.WordList.lookup_of_within [] (by decide) rfl List.Pairwise.nil
  have hcandidates : avoidsBad.nearest.candidates Nat "goodbad".toList =
      [⟨"good bad".toList, 1, none⟩] := by
    rw [MultiSpeller.candidates_of_single (m := avoidsBad.nearest) rfl,
      Speller.candidates_of_found rfl (Speller.found_of_lookup hlookup) (by decide)]
    rfl
  have hspellers : avoidsBad.spellersFor (Text.compose "goodbad".toList) =
      [] ++ avoidsBad.nearest :: [] := rfl
  have hfirst : avoidsBad.found "goodbad".toList =
      avoidsBad.nearest.candidates Nat "goodbad".toList := by
    refine found_of_first hspellers (fun _ h => absurd h List.not_mem_nil) ?_
    rw [show Text.compose "goodbad".toList = "goodbad".toList from rfl, hcandidates]
    exact List.cons_ne_nil _ _
  rw [hfirst, hcandidates]

theorem suggestions_avoidsBad :
    avoidsBad.suggestions "goodbad".toList = .ok ["good bad".toList] := by
  have hcandidates : avoidsBad.candidates "goodbad".toList = [⟨"good bad".toList, 1, none⟩] := by
    rw [candidates_eq_filter, found_avoidsBad]
    rfl
  unfold suggestions
  rw [hcandidates]
  rfl

/-- What is suggested for "goodbad" is not prohibited as a whole. -/
theorem suggestions_goodbad :
    avoidsBad.suggestions "goodbad".toList = .ok ["good bad".toList] ∧
      avoidsBad.isProhibited "good bad".toList = false :=
  ⟨suggestions_avoidsBad,
    ((suggestions_permitted suggestions_avoidsBad).1 _ (List.mem_singleton_self _)).1⟩

/-- A word of a suggestion may be prohibited: for "goodbad", "good bad" is suggested although "bad" is
prohibited. -/
theorem exists_prohibited_part : ∃ (dictionaries : List Dictionary) (ranker : Ranker Nat)
    (o : SpellingOptions) (r : SpellingRule Nat) (word : Text) (ts : List Text),
    make dictionaries ranker o = .ok r ∧ r.suggestions word = .ok ts ∧
      ∃ t ∈ ts, ∃ part ∈ t.splitAtChar ' ', r.isProhibited part = true :=
  ⟨[goodAndBad], avoidsBad.ranker, avoidsBad.options, avoidsBad, "goodbad".toList, _, rfl,
    suggestions_avoidsBad, _, List.mem_singleton_self _, "bad".toList, by decide, by decide⟩

end Examples

/-! ### Wider searches -/

/-- The spellers, from the least distance on. -/
def spellers (r : SpellingRule S) : List MultiSpeller := r.nearest :: r.wider

/-- A rule is made from ascending distances, and has a speller for each, in their order. -/
theorem ascending_of_make [LT S] [DecidableLT S] {dictionaries : List Dictionary} {ranker : Ranker S}
    {o : SpellingOptions} (h : make dictionaries ranker o = .ok r) :
    isAscending o.distances = true ∧ r.options = o ∧
      List.Forall₂ (fun d m => MultiSpeller.make dictionaries d o.locale = .ok m)
        o.distances r.spellers := by
  unfold make at h
  dsimp only at h
  by_cases hdistances : (o.distances.isEmpty || !isAscending o.distances) = true
  · rw [if_pos hdistances] at h
    cases h
  · rw [if_neg hdistances] at h
    by_cases hcap : o.maxSuggestions < 0
    · rw [if_pos hcap] at h
      cases h
    · rw [if_neg hcap] at h
      obtain ⟨spellers, hspellers, h⟩ := bind_ok_iff.mp h
      cases spellers with
      | nil => cases h
      | cons nearest wider =>
        obtain rfl := Except.ok.inj h
        have hascending : isAscending o.distances = true := by
          rw [Bool.or_eq_true, Bool.not_eq_true', not_or, Bool.not_eq_false] at hdistances
          exact hdistances.2
        exact ⟨hascending, rfl, mapM_ok_iff.mp hspellers⟩

/-- A rule has a speller for each distance, in their order. -/
theorem forall₂_spellers_of_make [LT S] [DecidableLT S] {dictionaries : List Dictionary} {ranker : Ranker S}
    {o : SpellingOptions} (h : make dictionaries ranker o = .ok r) : r.options = o ∧
      List.Forall₂ (fun d m => MultiSpeller.make dictionaries d o.locale = .ok m)
        o.distances r.spellers :=
  (ascending_of_make h).2

/-- A word that is long enough is tried with all spellers. -/
theorem spellersFor_of_long {t : Text} (h : r.options.escalationLength ≤ t.length) :
    r.spellersFor t = r.spellers := by
  rw [spellersFor, if_neg (Int.not_lt.mpr h)]
  rfl

/-- Whether the candidates at the least distance that yields any are all prohibited, and hide one at a
greater distance that is not. -/
def Masks (r : SpellingRule S) (word : Text) : Prop :=
  ∃ before m after, r.spellers = before ++ m :: after ∧
    (∀ m' ∈ before, m'.candidates S word = []) ∧ m.candidates S word ≠ [] ∧
    (∀ c ∈ m.candidates S word, r.isProhibited c.correction = true) ∧
    ∃ m' ∈ after, ∃ c ∈ m'.candidates S word, r.isProhibited c.correction = false

theorem candidates_eq_nil_of_masks (hlong : r.options.escalationLength ≤ word.compose.length)
    (h : r.Masks word.compose) : r.candidates word = [] := by
  obtain ⟨before, m, after, hspellers, hbefore, hm, hprohibited, -⟩ := h
  rw [← spellersFor_of_long hlong] at hspellers
  rw [candidates_eq_nil_iff_found, found_of_first hspellers hbefore hm]
  exact hprohibited

/-- **Wider searches.**  For a word that is long enough, a rule has no candidates iff all that its
spellers, one for each distance, have for it are prohibited, or prohibited ones mask another. -/
theorem candidates_eq_nil_iff [LT S] [DecidableLT S] {dictionaries : List Dictionary} {ranker : Ranker S}
    {o : SpellingOptions} (hmake : make dictionaries ranker o = .ok r)
    (hlong : o.escalationLength ≤ word.compose.length) :
    List.Forall₂ (fun d m => MultiSpeller.make dictionaries d o.locale = .ok m)
      o.distances r.spellers ∧
    (r.candidates word = [] ↔
      (∀ m ∈ r.spellers, ∀ c ∈ m.candidates S word.compose, r.isProhibited c.correction = true) ∨
        r.Masks word.compose) := by
  obtain ⟨rfl, hspellers⟩ := forall₂_spellers_of_make hmake
  have hall := spellersFor_of_long (r := r) hlong
  refine ⟨hspellers, fun h => ?_, ?_⟩
  · rw [candidates_eq_nil_iff_found] at h
    rcases found_cases r word with ⟨-, hnone⟩ | ⟨before, m, after, hsplit, hbefore, hm, hfound⟩
    · left
      intro m hm c hc
      rw [hnone m (hall ▸ hm)] at hc
      exact absurd hc List.not_mem_nil
    · rw [hall] at hsplit
      rw [hfound] at h
      -- what comes after the first speller with candidates is not asked
      by_cases hother : ∃ m' ∈ after, ∃ c ∈ m'.candidates S word.compose,
          r.isProhibited c.correction = false
      · exact .inr ⟨before, m, after, hsplit, hbefore, hm, h, hother⟩
      · left
        intro m' hm' c hc
        rw [hsplit, List.mem_append, List.mem_cons] at hm'
        rcases hm' with hm' | rfl | hm'
        · rw [hbefore m' hm'] at hc
          exact absurd hc List.not_mem_nil
        · exact h c hc
        · by_contra hpermitted
          exact hother ⟨m', hm', c, hc, Bool.eq_false_iff.mpr hpermitted⟩
  · rintro (hprohibited | hmasks)
    · rw [candidates_eq_nil_iff_found]
      intro c hc
      obtain ⟨m, hm, hcm⟩ := exists_speller_of_mem_found hc
      exact hprohibited m (hall ▸ hm) c hcm
    · exact candidates_eq_nil_of_masks hlong hmasks

/-! ### A prohibited word nearby -/

section Examples

/-- A list of "house" and "horses". -/
def houseAndHorses : Dictionary :=
  ⟨0, .words (.ofEntries [⟨"house".toList, []⟩, ⟨"horses".toList, []⟩])⟩

/-- A rule that tries one edit and then two, and prohibits "house". -/
def avoidsHouse : SpellingRule Nat where
  options := { distances := [1, 2], prohibited := ["house".toList] }
  nearest := ⟨1, [MultiSpeller.englishOver houseAndHorses 0]⟩
  wider := [⟨2, [MultiSpeller.englishOver houseAndHorses 1]⟩]
  ranker := ⟨none, 2⟩

theorem candidates_within_one :
    (MultiSpeller.englishOver houseAndHorses 0).candidates Nat "hourse".toList =
      [⟨"house".toList, 1, none⟩] := by
  have hlookup : ∀ q ∈ (MultiSpeller.englishOver houseAndHorses 0).queries "hourse".toList,
      houseAndHorses.lookup q 1 = ["house".toList] := by
    refine List.forall_mem_singleton.mpr ?_
    exact Spelling.WordList.lookup_of_within [⟨1, 0, "house".toList⟩] (by decide) rfl (by decide)
  rw [Speller.candidates_of_found rfl (Speller.found_of_lookup hlookup) (by decide)]
  rfl

theorem candidates_within_two :
    (MultiSpeller.englishOver houseAndHorses 1).candidates Nat "hourse".toList =
      [⟨"house".toList, 1, none⟩, ⟨"horses".toList, 2, none⟩] := by
  have hlookup : ∀ q ∈ (MultiSpeller.englishOver houseAndHorses 1).queries "hourse".toList,
      houseAndHorses.lookup q 2 = ["house".toList, "horses".toList] := by
    refine List.forall_mem_singleton.mpr ?_
    exact Spelling.WordList.lookup_of_within [⟨1, 0, "house".toList⟩, ⟨2, 1, "horses".toList⟩]
      (by decide) rfl (by decide)
  rw [Speller.candidates_of_found rfl (Speller.found_of_lookup hlookup) (by decide)]
  rfl

/-- For "hourse", the prohibited "house" at one edit masks "horses" at two. -/
theorem avoidsHouse_masks : avoidsHouse.Masks "hourse".toList := by
  have hnearest : avoidsHouse.nearest.candidates Nat "hourse".toList =
      [⟨"house".toList, 1, none⟩] := by
    rw [MultiSpeller.candidates_of_single (m := avoidsHouse.nearest) rfl, candidates_within_one]
  refine ⟨[], avoidsHouse.nearest, avoidsHouse.wider, rfl, fun _ h => absurd h List.not_mem_nil, ?_,
    ?_, _, List.mem_singleton_self _, ⟨"horses".toList, 2, none⟩, ?_, by decide⟩
  · rw [hnearest]
    exact List.cons_ne_nil _ _
  · rw [hnearest, List.forall_mem_singleton]
    decide
  · rw [MultiSpeller.candidates_of_single rfl, candidates_within_two]
    exact List.mem_cons_of_mem _ (List.mem_singleton_self _)

/-- So there are no candidates for "hourse". -/
theorem candidates_hourse :
    make [houseAndHorses] avoidsHouse.ranker avoidsHouse.options = .ok avoidsHouse ∧
      avoidsHouse.options.escalationLength ≤ (Text.compose "hourse".toList).length ∧
      avoidsHouse.candidates "hourse".toList = [] := by
  have hmake : make [houseAndHorses] avoidsHouse.ranker avoidsHouse.options = .ok avoidsHouse := rfl
  have hlong : avoidsHouse.options.escalationLength ≤ (Text.compose "hourse".toList).length := by
    decide
  exact ⟨hmake, hlong, (candidates_eq_nil_iff hmake hlong).2.mpr (.inr avoidsHouse_masks)⟩

/-- A misspelled word that is long enough may be left without candidates although one at a greater
distance is not prohibited. -/
theorem exists_masked_candidate : ∃ (dictionaries : List Dictionary) (ranker : Ranker Nat)
    (o : SpellingOptions) (r : SpellingRule Nat) (word : Text),
    make dictionaries ranker o = .ok r ∧ r.isMisspelled word = true ∧
      o.escalationLength ≤ word.compose.length ∧ r.candidates word = [] ∧
      ∃ m ∈ r.spellers, ∃ c ∈ m.candidates Nat word.compose, r.isProhibited c.correction = false := by
  obtain ⟨before, m, after, hspellers, -, -, -, m', hm', c, hc, hpermitted⟩ := avoidsHouse_masks
  have hmem : m' ∈ avoidsHouse.spellers := by
    rw [hspellers]
    exact List.mem_append_right before (List.mem_cons_of_mem m hm')
  exact ⟨[houseAndHorses], avoidsHouse.ranker, avoidsHouse.options, avoidsHouse, "hourse".toList, rfl,
    rfl, by decide, candidates_eq_nil_of_masks (by decide) avoidsHouse_masks, m', hmem, c, hc,
    hpermitted⟩

end Examples

end SpellingRule

end Copyedit
