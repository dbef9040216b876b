import Copyedit.Proofs.Rules.Spelling
import Copyedit.Proofs.Spelling.Bound

/-!
# Greater distances

Over word lists, the spelling rule never passes over a closer correction: the candidates that it takes at a
distance are all farther away than the distances that were tried before without result
(`candidates_escalation`).

The reason is that raising the number of edits only adds to the candidates of each dictionary, and so to
those of all of them (`lt_distance_of_candidates_eq_nil`): a correction that is close enough for a lesser
distance would have been found there.

Whether a word is tried at more than the least distance is decided by the length of its composed form.
Some letters are taken apart there, so that a word of fewer letters may be long enough
(`exists_short_escalated`).
-/

namespace Copyedit

namespace Spelling

/-- Whether all dictionaries are lists of words. -/
def AreWordLists (dictionaries : List Dictionary) : Prop :=
  ∀ d ∈ dictionaries, ∃ listed convertsCase name,
    d.listing = .words (.ofEntries listed convertsCase name)

namespace MultiSpeller

variable {S : Type} {dictionaries : List Dictionary} {n n' : Int} {l : Locale} {splits : Bool}
  {m m' : MultiSpeller} {word : Text} {c : Candidate S}

/-! ### Spellers that differ in the number of edits -/

/-- A speller over dictionaries has a speller over each, with the same settings. -/
theorem spellers_of_make (h : make dictionaries n l splits = .ok m) : ∃ hn : 0 < n,
    m.spellers = (distinctBy (·.number) dictionaries).map fun d => ⟨d, n, hn, l, splits⟩ := by
  unfold make at h
  split at h
  · rename_i hn
    obtain rfl := Except.ok.inj h
    exact ⟨hn, rfl⟩
  · cases h

/-- What is misspelled does not depend on the number of edits. -/
theorem isMisspelled_eq_of_make (h : make dictionaries n l splits = .ok m)
    (h' : make dictionaries n' l splits = .ok m') : m.isMisspelled word = m'.isMisspelled word := by
  obtain ⟨hn, hspellers⟩ := spellers_of_make h
  obtain ⟨hn', hspellers'⟩ := spellers_of_make h'
  unfold isMisspelled
  rw [hspellers, hspellers', List.all_map, List.all_map]
  rfl

/-- A candidate comes from a speller over a word list, with the number of edits. -/
theorem exists_speller_of_make (hwords : AreWordLists dictionaries)
    (h : make dictionaries n l splits = .ok m) (hc : c ∈ m.candidates S word) :
    ∃ s ∈ m.spellers, c ∈ s.candidates S word ∧ s.maxDistance = n ∧
      ∃ listed convertsCase name,
        s.dictionary.listing = .words (.ofEntries listed convertsCase name) := by
  obtain ⟨s, hs, hcs⟩ := exists_speller_of_mem_candidates hc
  obtain ⟨hn, hspellers⟩ := spellers_of_make h
  rw [hspellers] at hs
  obtain ⟨d, hd, rfl⟩ := List.mem_map.mp hs
  have hlisted : d ∈ dictionaries := (distinctFrom_sublist _ [] dictionaries).subset hd
  exact ⟨_, hspellers ▸ hs, hcs, rfl, hwords d hlisted⟩

theorem distance_le_of_make (hwords : AreWordLists dictionaries)
    (h : make dictionaries n l splits = .ok m) (hc : c ∈ m.candidates S word) : c.distance ≤ n := by
  obtain ⟨s, -, hcs, rfl, listed, convertsCase, name, hlisting⟩ := exists_speller_of_make hwords h hc
  obtain ⟨⟨e, he, hcorrection, hdistance⟩, -⟩ := Speller.candidates_least hcs
  have hcorrects := (Speller.corrects_iff hlisting).mpr ⟨e, he, hcorrection, rfl⟩
  rw [hdistance]
  exact hcorrects.le_maxDistance

/-- What a greater number of edits adds to no candidates at all is farther away. -/
theorem lt_distance_of_candidates_eq_nil (hwords : AreWordLists dictionaries)
    (h : make dictionaries n l splits = .ok m) (h' : make dictionaries n' l splits = .ok m')
    (hle : n ≤ n') (hnone : m.candidates S word = []) (hc : c ∈ m'.candidates S word) :
    n < c.distance := by
  obtain ⟨s, hs, hcs, hbound, listed, convertsCase, name, hlisting⟩ :=
    exists_speller_of_make hwords h' hc
  obtain ⟨hn, hspellers⟩ := spellers_of_make h
  obtain ⟨hn', hspellers'⟩ := spellers_of_make h'
  obtain ⟨farther, happend, -, hfar⟩ :=
    Speller.exists_candidates_eq_append hlisting (hbound ▸ hle) S word hn
  rw [happend, List.mem_append] at hcs
  refine hcs.elim (fun hnear => ?_) (hfar c)
  -- the speller with the lesser number of edits is one of those without candidates
  have hmem : s.withBound n hn ∈ m.spellers := by
    rw [hspellers'] at hs
    obtain ⟨d, hd, rfl⟩ := List.mem_map.mp hs
    rw [hspellers]
    exact List.mem_map.mpr ⟨d, hd, rfl⟩
  have hmisspelled : m.isMisspelled word = true := by
    rw [isMisspelled_eq_of_make h h']
    by_contra hnot
    rw [candidates_of_not_isMisspelled (Bool.eq_false_iff.mpr hnot)] at hc
    exact List.not_mem_nil hc
  have hcorrection := (mem_corrections_iff hmisspelled).mpr ⟨_, hmem, List.mem_map_of_mem hnear⟩
  rw [hnone] at hcorrection
  exact absurd hcorrection List.not_mem_nil

end MultiSpeller

end Spelling

namespace SpellingRule

open Spelling (Candidate MultiSpeller Speller Dictionary AreWordLists)
open Ranking (Ranker)

variable {S : Type} {r : SpellingRule S} {word : Text}

/-! ### The distances of a rule -/

theorem pairwise_of_isAscending {ns : List Int} (h : isAscending ns = true) :
    ns.Pairwise (· < ·) := by
  fun_induction isAscending ns with
  | case1 => exact List.Pairwise.nil
  | case2 n => exact List.pairwise_singleton _ n
  | case3 n m rest ih =>
    rw [Bool.and_eq_true, Bool.and_eq_true, decide_eq_true_eq, decide_eq_true_eq] at h
    obtain ⟨⟨-, hlt⟩, hrest⟩ := h
    have htail := ih hrest
    refine List.pairwise_cons.mpr ⟨List.forall_mem_cons.mpr ⟨hlt, fun k hk => ?_⟩, htail⟩
    exact Int.lt_trans hlt (List.rel_of_pairwise_cons htail hk)

/-- The spellers that a word is tried with are the first ones, and only the first for a short word. -/
theorem spellersFor_spec (r : SpellingRule S) (t : Text) : r.spellersFor t <+: r.spellers ∧
    ((t.length : Int) < r.options.escalationLength → r.spellersFor t = [r.nearest]) := by
  unfold spellersFor spellers
  split
  · exact ⟨⟨r.wider, rfl⟩, fun _ => rfl⟩
  · rename_i hlong
    exact ⟨List.prefix_refl _, fun hshort => absurd hshort hlong⟩

/-- What is found comes from one of the spellers that the word is tried with; those before it have
nothing. -/
theorem exists_found (r : SpellingRule S) (word : Text) : ∃ before m after,
    r.spellersFor word.compose = before ++ m :: after ∧
      (∀ m' ∈ before, m'.candidates S word.compose = []) ∧
        r.found word = m.candidates S word.compose := by
  rcases found_cases r word with ⟨hnil, hnone⟩ | ⟨before, m, after, hspellers, hbefore, -, hfound⟩
  · refine ⟨[], r.nearest, _, rfl, List.forall_mem_nil _, ?_⟩
    rw [hnil, hnone r.nearest List.mem_cons_self]
  · exact ⟨before, m, after, hspellers, hbefore, hfound⟩

/-- **Greater distances.**  Over word lists, the candidates for a word are those at one of the distances
but the prohibited ones.  At the distances before it there is nothing, and all that is taken is farther
away than they are.  A word whose composed form is too short is only tried at the first distance. -/
theorem candidates_escalation [LT S] [DecidableLT S] {dictionaries : List Dictionary} {ranker : Ranker S}
    {o : SpellingOptions} (hmake : make dictionaries ranker o = .ok r)
    (hwords : AreWordLists dictionaries) (word : Text) :
    ∃ before d after m, o.distances = before ++ d :: after ∧
      MultiSpeller.make dictionaries d o.locale = .ok m ∧
      r.candidates word =
        (m.candidates S word.compose).filter (fun c => !r.isProhibited c.correction) ∧
      (∀ d' ∈ before, ∃ m', MultiSpeller.make dictionaries d' o.locale = .ok m' ∧
        m'.candidates S word.compose = []) ∧
      (∀ c ∈ r.candidates word, c.distance ≤ d ∧ ∀ d' ∈ before, d' < c.distance) ∧
      ((word.compose.length : Int) < o.escalationLength → before = []) := by
  obtain ⟨hascending, rfl, hspellers⟩ := ascending_of_make hmake
  obtain ⟨before, m, after, hsplit, hbefore, hfound⟩ := exists_found r word
  obtain ⟨⟨beyond, hbeyond⟩, hshort⟩ := spellersFor_spec r word.compose
  -- the distances fall into parts as the spellers do
  rw [← hbeyond, hsplit, List.append_assoc, List.cons_append] at hspellers
  have hfront := List.forall₂_take_append _ _ _ hspellers
  obtain ⟨d, rest, hm, -, hdrop⟩ :=
    List.forall₂_cons_right_iff.mp (List.forall₂_drop_append _ _ _ hspellers)
  have hdistances : r.options.distances = r.options.distances.take before.length ++ d :: rest := by
    rw [← hdrop, List.take_append_drop]
  have hnothing : ∀ d' ∈ r.options.distances.take before.length, ∃ m',
      MultiSpeller.make dictionaries d' r.options.locale = .ok m' ∧
        m'.candidates S word.compose = [] := by
    intro d' hd'
    obtain ⟨m', hm', hmake'⟩ := exists_of_mem_forall₂ hfront.flip hd'
    exact ⟨m', hmake', hbefore m' hm'⟩
  have hless : ∀ d' ∈ r.options.distances.take before.length, d' < d := by
    have hpairwise := pairwise_of_isAscending hascending
    rw [hdistances] at hpairwise
    exact fun d' hd' => (List.pairwise_append.mp hpairwise).2.2 d' hd' d List.mem_cons_self
  refine ⟨r.options.distances.take before.length, d, rest, m, hdistances, hm, ?_, hnothing,
    fun c hc => ?_, fun hlength => ?_⟩
  · rw [candidates_eq_filter, hfound]
  · obtain ⟨hc, -⟩ := mem_candidates_iff.mp hc
    rw [hfound] at hc
    refine ⟨MultiSpeller.distance_le_of_make hwords hm hc, fun d' hd' => ?_⟩
    obtain ⟨m', hm', hnone⟩ := hnothing d' hd'
    exact MultiSpeller.lt_distance_of_candidates_eq_nil hwords hm' hm (hless d' hd').le hnone hc
  · -- with one speller to try there is none before it
    rw [hshort hlength] at hsplit
    have hbefore : before = [] := by
      cases before with
      | nil => rfl
      | cons m' before => simp at hsplit
    rw [hbefore, List.length_nil, List.take_zero]

/-! ### A word that is longer than it looks -/

section Examples

/-- A list of one word of five characters in composed form, in a script without case. -/
def zamin : Dictionary :=
  ⟨0, .words (.ofEntries [⟨"\u091c\u093c\u092e\u0940\u0928".toList, []⟩] false)⟩

/-- A rule with the usual settings over the list. -/
def overZamin : SpellingRule Nat where
  options := {}
  nearest := ⟨1, [MultiSpeller.englishOver zamin 0]⟩
  wider := [⟨2, [MultiSpeller.englishOver zamin 1]⟩, ⟨3, [MultiSpeller.englishOver zamin 2]⟩]
  ranker := ⟨none, 2⟩

/-- A word of four characters, the first of which is two in composed form. -/
def zaban : Text := "\u095b\u092c\u093e\u0928".toList

theorem compose_zaban : zaban.compose = "\u091c\u093c\u092c\u093e\u0928".toList := by
  decide +kernel

theorem candidates_within_one_zaban : overZamin.nearest.candidates Nat zaban.compose = [] := by
  have hlookup : ∀ q ∈ (MultiSpeller.englishOver zamin 0).queries
      "\u091c\u093c\u092c\u093e\u0928".toList, zamin.lookup q 1 = [] := by
    refine List.forall_mem_singleton.mpr ?_
    exact Spelling.WordList.lookup_of_within [] (by decide) rfl List.Pairwise.nil
  rw [MultiSpeller.candidates_of_single (m := overZamin.nearest) rfl, compose_zaban,
    Speller.candidates_of_found rfl (Speller.found_of_lookup hlookup) (by decide)]
  rfl

theorem candidates_within_two_zaban : (MultiSpeller.englishOver zamin 1).candidates Nat zaban.compose =
    [⟨"\u091c\u093c\u092e\u0940\u0928".toList, 2, none⟩] := by
  have hlookup : ∀ q ∈ (MultiSpeller.englishOver zamin 1).queries
      "\u091c\u093c\u092c\u093e\u0928".toList,
      zamin.lookup q 2 = ["\u091c\u093c\u092e\u0940\u0928".toList] := by
    refine List.forall_mem_singleton.mpr ?_
    exact Spelling.WordList.lookup_of_within [⟨2, 0, "\u091c\u093c\u092e\u0940\u0928".toList⟩]
      (by decide) rfl (by decide)
  rw [compose_zaban, Speller.candidates_of_found rfl (Speller.found_of_lookup hlookup) (by decide)]
  rfl

/-- The word is tried at two edits, where the listed word is found. -/
theorem candidates_zaban_ne_nil : overZamin.candidates zaban ≠ [] := by
  have hspellers : overZamin.spellersFor zaban.compose =
      [overZamin.nearest] ++ ⟨2, [MultiSpeller.englishOver zamin 1]⟩ ::
        [⟨3, [MultiSpeller.englishOver zamin 2]⟩] := by
    rw [compose_zaban]
    rfl
  have hsecond : MultiSpeller.candidates Nat ⟨2, [MultiSpeller.englishOver zamin 1]⟩ zaban.compose =
      [⟨"\u091c\u093c\u092e\u0940\u0928".toList, 2, none⟩] := by
    rw [MultiSpeller.candidates_of_single rfl, candidates_within_two_zaban]
  have hfound : overZamin.found zaban = [⟨"\u091c\u093c\u092e\u0940\u0928".toList, 2, none⟩] := by
    rw [found_of_first hspellers (List.forall_mem_singleton.mpr candidates_within_one_zaban), hsecond]
    rw [hsecond]
    exact List.cons_ne_nil _ _
  rw [candidates_eq_filter, hfound]
  exact List.cons_ne_nil _ _

/-- Nothing is found for the word at one edit, and what is found is farther away. -/
theorem candidates_escalation_zaban :
    make [zamin] overZamin.ranker overZamin.options = .ok overZamin ∧ AreWordLists [zamin] ∧
      ∃ before d after, overZamin.options.distances = before ++ d :: after ∧ 1 ∈ before ∧
        ∀ c ∈ overZamin.candidates zaban, c.distance ≤ d ∧ ∀ d' ∈ before, d' < c.distance := by
  have hmake : make [zamin] overZamin.ranker overZamin.options = .ok overZamin := rfl
  have hwords : AreWordLists [zamin] := List.forall_mem_singleton.mpr ⟨_, _, _, rfl⟩
  obtain ⟨before, d, after, m, hdistances, hm, hcandidates, -, hbetween, -⟩ :=
    candidates_escalation hmake hwords zaban
  refine ⟨hmake, hwords, before, d, after, hdistances, ?_, hbetween⟩
  cases before with
  | nil =>
    -- the candidates do not come from the least distance, where there are none
    obtain ⟨rfl, -⟩ := List.cons.inj hdistances
    obtain rfl : overZamin.nearest = m := Except.ok.inj hm
    rw [candidates_within_one_zaban] at hcandidates
    exact absurd hcandidates candidates_zaban_ne_nil
  | cons d' before =>
    obtain ⟨rfl, -⟩ := List.cons.inj hdistances
    exact List.mem_cons_self

/-- A word that is shorter than what is tried at greater distances may have candidates from there. -/
theorem exists_short_escalated : ∃ (dictionaries : List Dictionary) (ranker : Ranker Nat)
    (o : SpellingOptions) (r : SpellingRule Nat) (word : Text),
    make dictionaries ranker o = .ok r ∧ AreWordLists dictionaries ∧
      (word.length : Int) < o.escalationLength ∧ r.nearest.candidates Nat word.compose = [] ∧
      r.candidates word ≠ [] :=
  ⟨[zamin], overZamin.ranker, overZamin.options, overZamin, zaban, rfl,
    List.forall_mem_singleton.mpr ⟨_, _, _, rfl⟩, by decide, candidates_within_one_zaban,
    candidates_zaban_ne_nil⟩

end Examples

end SpellingRule

end Copyedit
