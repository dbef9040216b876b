import Copyedit.Proofs.Spelling.Speller

/-!
# What several dictionaries suggest

A speller over several dictionaries reports a word iff the spellers over each of them do, and suggests
what any of them suggests (`mem_corrections_iff`).  So with more dictionaries fewer words are reported
and more corrections are suggested, and neither the order of the dictionaries nor a repetition makes a
difference to that (`make_monotone`).

It does to the distances.  Equal corrections are dropped before the candidates are sorted, so that a
correction comes at the distance at which the first speller with it reports it, and a later speller may
report a lesser one (`candidates_distance`, `exists_farther_candidate`).  The distances of a word that is
looked up as it is written are those between the texts, whichever dictionary comes first.
-/

namespace Copyedit.Spelling

namespace Speller

variable {S : Type} {s : Speller} {word t : Text} {c : Candidate S}

/-! ### One speller -/

/-- The candidate that suggests a correction, if there is one. -/
def candidateFor? (S : Type) (s : Speller) (word t : Text) : Option (Candidate S) :=
  (s.candidates S word).find? fun c => c.correction = t

theorem candidateFor?_eq_some_iff :
    s.candidateFor? S word t = some c ↔ c ∈ s.candidates S word ∧ c.correction = t := by
  unfold candidateFor?
  constructor
  · intro h
    have hcorrection := List.find?_some h
    rw [decide_eq_true_eq] at hcorrection
    exact ⟨List.mem_of_find?_eq_some h, hcorrection⟩
  · rintro ⟨hc, hcorrection⟩
    have hsome : ((s.candidates S word).find? fun c => c.correction = t).isSome = true :=
      List.find?_isSome.mpr ⟨c, hc, decide_eq_true hcorrection⟩
    obtain ⟨c', hc'⟩ := Option.isSome_iff_exists.mp hsome
    have hmem : c' ∈ s.candidates S word := List.mem_of_find?_eq_some hc'
    have hsame := List.find?_some hc'
    rw [decide_eq_true_eq, ← hcorrection] at hsame
    obtain rfl : c' = c := List.inj_on_of_nodup_map (nodup_candidates S s word) hmem hc hsame
    exact hc'

theorem candidateFor?_eq_none_iff :
    s.candidateFor? S word t = none ↔ t ∉ (s.candidates S word).map (·.correction) := by
  rw [candidateFor?, List.find?_eq_none, List.mem_map]
  simp only [decide_eq_true_eq, not_exists, not_and]

/-- Whether a speller takes a word as it is written: it looks up no other form of the word, and leaves
the casing of what it suggests alone. -/
def TakesAsWritten (s : Speller) (word : Text) : Prop :=
  s.convertsCase = false ∨ word.isAllUpper = false ∧ word.startsUpper = false

theorem TakesAsWritten.queries_eq (h : s.TakesAsWritten word) : s.queries word = [word] := by
  unfold queries
  rcases h with h | ⟨hupper, hstarts⟩
  · rw [h]
    rfl
  · have hvariants : caseVariants s.locale word = [] := by
      unfold caseVariants
      rw [hupper, hstarts]
      rfl
    rw [hvariants, ite_self]

theorem TakesAsWritten.recase_eq (h : s.TakesAsWritten word) (t : Text) : s.recase word t = t := by
  unfold recase
  rcases h with h | ⟨-, hstarts⟩
  · rw [h]
    rfl
  · rw [hstarts, Bool.and_false]
    rfl

/-- A blank that splits a word is one insertion. -/
theorem leastCost_split (word : Text) (i : Nat) :
    leastCost word (word.take i ++ ' ' :: word.drop i) = 1 := by
  apply Nat.le_antisymm
  · have script := (EditScript.refl (word.take i)).append (.insert ' ' (.refl (word.drop i)))
    rw [List.take_append_drop] at script
    exact script.leastCost_le
  · rw [Nat.one_le_iff_ne_zero]
    intro hzero
    have hlength := congrArg List.length (leastCost_eq_zero_iff.mp hzero)
    rw [List.length_append, List.length_cons, List.length_take, List.length_drop] at hlength
    omega

/-- The distance to a correction of a word that is taken as it is written is the one between the texts. -/
theorem distance_of_mem_candidates (h : s.TakesAsWritten word) (hc : c ∈ s.candidates S word) :
    c.distance = Spelling.distance word c.correction := by
  obtain ⟨⟨⟨n, u⟩, he, hcorrection, hdistance⟩, -⟩ := candidates_least hc
  rw [h.recase_eq] at hcorrection
  rw [hdistance, distance_eq, ← hcorrection]
  rcases mem_found_iff.mp he with ⟨q, hq, -, hcost⟩ | ⟨-, hsplit, hone⟩
  · rw [h.queries_eq, List.mem_singleton] at hq
    rw [← hq, hcost]
  · obtain ⟨i, -, -, -, -, rfl⟩ := mem_runOnSplits_iff.mp hsplit
    rw [leastCost_split, hone]

end Speller

namespace MultiSpeller

variable {S : Type} {m : MultiSpeller} {word t : Text} {c : Candidate S}

/-! ### What is reported -/

theorem isMisspelled_iff :
    m.isMisspelled word = true ↔ word ≠ [] ∧ ∀ s ∈ m.spellers, s.isMisspelled word = true := by
  simp [isMisspelled]

theorem candidates_of_isMisspelled (h : m.isMisspelled word = true) :
    m.candidates S word =
      (distinctBy (·.correction) (m.spellers.flatMap fun s => s.candidates S word)).mergeSort
        fun a b => a.distance ≤ b.distance :=
  if_pos h

theorem candidates_of_not_isMisspelled (h : m.isMisspelled word = false) :
    m.candidates S word = [] := by
  unfold candidates
  rw [h]
  rfl

/-- The candidates of a misspelled word are those of the first spellers with their corrections. -/
theorem mem_candidates_iff (h : m.isMisspelled word = true) :
    c ∈ m.candidates S word ↔
      m.spellers.findSome? (fun s => s.candidateFor? S word c.correction) = some c := by
  rw [candidates_of_isMisspelled h, (List.mergeSort_perm _ _).mem_iff, distinctBy,
    mem_distinctFrom_iff, List.find?_flatMap]
  exact and_iff_right List.not_mem_nil

/-- The corrections of a misspelled word are those of its spellers. -/
theorem mem_corrections_iff (h : m.isMisspelled word = true) :
    t ∈ (m.candidates S word).map (·.correction) ↔
      ∃ s ∈ m.spellers, t ∈ (s.candidates S word).map (·.correction) := by
  have hperm := (List.mergeSort_perm (distinctBy (·.correction)
    (m.spellers.flatMap fun s => s.candidates S word)) fun a b => a.distance ≤ b.distance)
  rw [candidates_of_isMisspelled h, (hperm.map (·.correction)).mem_iff, distinctBy,
    mem_keys_distinctFrom, List.map_flatMap, List.mem_flatMap]
  exact and_iff_left List.not_mem_nil

theorem pairwise_candidates (S : Type) (m : MultiSpeller) (word : Text) :
    (m.candidates S word).Pairwise fun a b => a.distance ≤ b.distance := by
  unfold candidates
  split_ifs
  · exact pairwise_mergeSort_key Candidate.distance _
  · exact List.Pairwise.nil

/-- A speller over one dictionary has the candidates of that dictionary. -/
theorem candidates_of_single {s : Speller} (hspellers : m.spellers = [s]) :
    m.candidates S word = s.candidates S word := by
  cases h : m.isMisspelled word with
  | false =>
    have hs : s.isMisspelled word = false := by
      rw [← Bool.not_eq_true] at h ⊢
      intro hs
      rw [isMisspelled_iff, hspellers, List.forall_mem_singleton] at h
      exact h ⟨(Speller.isMisspelled_iff.mp hs).1, hs⟩
    rw [candidates_of_not_isMisspelled h, Speller.candidates_of_not_isMisspelled hs]
  | true =>
    rw [candidates_of_isMisspelled h, hspellers, List.flatMap_singleton, distinctBy,
      distinctFrom_eq_self (Speller.nodup_candidates S s word) fun _ _ => List.not_mem_nil]
    exact List.mergeSort_of_pairwise
      ((Speller.pairwise_candidates S s word).imp decide_eq_true)

/-! ### Distances -/

/-- The distances at which the spellers suggest a correction. -/
def reports (S : Type) (m : MultiSpeller) (word t : Text) : Set Int :=
  {d | ∃ s ∈ m.spellers, ∃ c ∈ s.candidates S word, c.correction = t ∧ c.distance = d}

/-- A candidate is what the first speller with its correction reports. -/
theorem exists_first (hc : c ∈ m.candidates S word) : ∃ before s after,
    m.spellers = before ++ s :: after ∧ c ∈ s.candidates S word ∧
      ∀ s' ∈ before, c.correction ∉ (s'.candidates S word).map (·.correction) := by
  have h : m.isMisspelled word = true := by
    by_contra hnot
    rw [candidates_of_not_isMisspelled (Bool.eq_false_iff.mpr hnot)] at hc
    exact List.not_mem_nil hc
  obtain ⟨before, s, after, hspellers, hsome, hbefore⟩ :=
    List.findSome?_eq_some_iff.mp ((mem_candidates_iff h).mp hc)
  refine ⟨before, s, after, hspellers, (Speller.candidateFor?_eq_some_iff.mp hsome).1, ?_⟩
  intro s' hs'
  exact Speller.candidateFor?_eq_none_iff.mp (hbefore s' hs')

theorem exists_speller_of_mem_candidates (hc : c ∈ m.candidates S word) :
    ∃ s ∈ m.spellers, c ∈ s.candidates S word := by
  obtain ⟨before, s, after, hspellers, hs, -⟩ := exists_first hc
  exact ⟨s, hspellers ▸ List.mem_append_cons_self, hs⟩

theorem distance_mem_reports (hc : c ∈ m.candidates S word) :
    c.distance ∈ m.reports S word c.correction := by
  obtain ⟨s, hmem, hs⟩ := exists_speller_of_mem_candidates hc
  exact ⟨s, hmem, c, hs, rfl, rfl⟩

/-- The distance of the first speller with a correction is the least iff no later one reports a lesser. -/
theorem isLeast_reports_iff {before after : List Speller} {s : Speller}
    (hspellers : m.spellers = before ++ s :: after) (hc : c ∈ s.candidates S word)
    (hbefore : ∀ s' ∈ before, c.correction ∉ (s'.candidates S word).map (·.correction)) :
    IsLeast (m.reports S word c.correction) c.distance ↔
      ∀ s' ∈ after, ∀ c' ∈ s'.candidates S word,
        c'.correction = c.correction → c.distance ≤ c'.distance := by
  constructor
  · rintro ⟨-, hleast⟩ s' hs' c' hc' hsame
    have hmem : s' ∈ m.spellers := by
      rw [hspellers]
      exact List.mem_append_right before (List.mem_cons_of_mem s hs')
    exact hleast ⟨s', hmem, c', hc', hsame, rfl⟩
  · intro hafter
    have hmem : s ∈ m.spellers := hspellers ▸ List.mem_append_cons_self
    refine ⟨⟨s, hmem, c, hc, rfl, rfl⟩, ?_⟩
    rintro d ⟨s', hs', c', hc', hsame, rfl⟩
    rw [hspellers, List.mem_append, List.mem_cons] at hs'
    rcases hs' with hs' | rfl | hs'
    · exact absurd (hsame ▸ List.mem_map_of_mem hc') (hbefore s' hs')
    · -- a speller suggests a correction once
      obtain rfl : c' = c :=
        List.inj_on_of_nodup_map (Speller.nodup_candidates S s' word) hc' hc hsame
      exact Int.le_refl _
    · exact hafter s' hs' c' hc' hsame

theorem isMisspelled_perm {spellers : List Speller} (h : spellers.Perm m.spellers) :
    isMisspelled { m with spellers } word = m.isMisspelled word := by
  rw [Bool.eq_iff_iff, isMisspelled_iff, isMisspelled_iff]
  simp only [h.mem_iff]

/-- The first speller decides on the distances of its corrections. -/
theorem mem_candidates_of_head {s : Speller} {rest : List Speller} (hspellers : m.spellers = s :: rest)
    (h : m.isMisspelled word = true) (hc : c ∈ s.candidates S word) : c ∈ m.candidates S word := by
  rw [mem_candidates_iff h, hspellers, List.findSome?_cons,
    Speller.candidateFor?_eq_some_iff.mpr ⟨hc, rfl⟩]

/-- The distance of a correction does not depend on the order of the spellers iff all that suggest it
report the same one. -/
theorem distance_perm_iff (h : m.isMisspelled word = true) (hc : c ∈ m.candidates S word) :
    (∀ spellers : List Speller, spellers.Perm m.spellers →
      ∀ c' ∈ candidates S { m with spellers } word,
        c'.correction = c.correction → c'.distance = c.distance) ↔
      (m.reports S word c.correction).Subsingleton := by
  constructor
  · intro hsame
    have hall : ∀ d ∈ m.reports S word c.correction, d = c.distance := by
      rintro d ⟨s, hs, c', hc', hcorrection, rfl⟩
      obtain ⟨before, after, hspellers⟩ := List.append_of_mem hs
      have hperm : (s :: (before ++ after)).Perm m.spellers := by
        rw [hspellers]
        exact List.perm_middle.symm
      -- put first, a speller decides
      refine hsame _ hperm c' (mem_candidates_of_head rfl ?_ hc') hcorrection
      rw [isMisspelled_perm hperm, h]
    intro d hd d' hd'
    rw [hall d hd, hall d' hd']
  · intro hsingle spellers hperm c' hc' hcorrection
    obtain ⟨s, hs, c'', hc'', hcorrection', hdistance⟩ := distance_mem_reports hc'
    exact hsingle ⟨s, hperm.mem_iff.mp hs, c'', hc'', hcorrection'.trans hcorrection, hdistance⟩
      (distance_mem_reports hc)

/-- The distances of a word that all spellers take as it is written are those between the texts. -/
theorem distance_eq_of_takesAsWritten (h : ∀ s ∈ m.spellers, s.TakesAsWritten word)
    (hc : c ∈ m.candidates S word) :
    c.distance = Spelling.distance word c.correction ∧
      IsLeast (m.reports S word c.correction) c.distance := by
  have hall : ∀ d ∈ m.reports S word c.correction, d = Spelling.distance word c.correction := by
    rintro d ⟨s, hs, c', hc', hcorrection, rfl⟩
    rw [Speller.distance_of_mem_candidates (h s hs) hc', hcorrection]
  have hdistance := hall _ (distance_mem_reports hc)
  refine ⟨hdistance, distance_mem_reports hc, fun d hd => ?_⟩
  rw [hdistance, hall d hd]

/-- **Distances of merged candidates.**  The candidates of a misspelled word have the corrections of all
spellers and come in the order of their distances.  Each is what the first speller with its correction
reports; its distance is the least of those reported iff no later speller reports a lesser one, and is
the same for every order of the spellers iff they report no two.  The distances of a word that all
spellers take as it is written are those between the texts, and the least. -/
theorem candidates_distance (h : m.isMisspelled word = true) :
    (∀ t, t ∈ (m.candidates S word).map (·.correction) ↔
      ∃ s ∈ m.spellers, t ∈ (s.candidates S word).map (·.correction)) ∧
    (m.candidates S word).Pairwise (fun a b => a.distance ≤ b.distance) ∧
    ∀ c ∈ m.candidates S word,
      (∃ before s after, m.spellers = before ++ s :: after ∧ c ∈ s.candidates S word ∧
        (∀ s' ∈ before, c.correction ∉ (s'.candidates S word).map (·.correction)) ∧
        (IsLeast (m.reports S word c.correction) c.distance ↔
          ∀ s' ∈ after, ∀ c' ∈ s'.candidates S word,
            c'.correction = c.correction → c.distance ≤ c'.distance)) ∧
      ((∀ spellers : List Speller, spellers.Perm m.spellers →
        ∀ c' ∈ candidates S { m with spellers } word,
          c'.correction = c.correction → c'.distance = c.distance) ↔
        (m.reports S word c.correction).Subsingleton) ∧
      ((∀ s ∈ m.spellers, s.TakesAsWritten word) →
        c.distance = Spelling.distance word c.correction ∧
          IsLeast (m.reports S word c.correction) c.distance) := by
  refine ⟨fun t => mem_corrections_iff h, pairwise_candidates S m word, fun c hc => ?_⟩
  obtain ⟨before, s, after, hspellers, hs, hbefore⟩ := exists_first hc
  have hleast := isLeast_reports_iff hspellers hs hbefore
  exact ⟨⟨before, s, after, hspellers, hs, hbefore, hleast⟩, distance_perm_iff h hc,
    fun hwritten => distance_eq_of_takesAsWritten hwritten hc⟩

/-! ### Two lists at odds -/

section Examples

/-- A list of "Abc" alone. -/
def capitalList : Dictionary := ⟨0, .words (.ofEntries [⟨"Abc".toList, []⟩])⟩

/-- A list of "abc" alone. -/
def smallList : Dictionary := ⟨1, .words (.ofEntries [⟨"abc".toList, []⟩])⟩

/-- An English speller over a dictionary that splits words, for one edit and `n` more. -/
def englishOver (d : Dictionary) (n : Nat) : Speller :=
  ⟨d, n + 1, Int.succ_ofNat_pos n, .english, true⟩

theorem candidates_capitalList :
    (englishOver capitalList 1).candidates Unit "Xabc".toList = [⟨"Abc".toList, 2, none⟩] := by
  have hlookup : ∀ q ∈ (englishOver capitalList 1).queries "Xabc".toList,
      capitalList.lookup q 2 = ["Abc".toList] := by
    refine List.forall_mem_cons.mpr ⟨?_, List.forall_mem_singleton.mpr ?_⟩
    · exact WordList.lookup_of_within [⟨2, 0, "Abc".toList⟩] (by decide) rfl (by decide)
    · exact WordList.lookup_of_within [⟨2, 0, "Abc".toList⟩] (by decide) rfl (by decide)
  rw [Speller.candidates_of_found rfl (Speller.found_of_lookup hlookup) (by decide)]
  rfl

theorem candidates_smallList :
    (englishOver smallList 1).candidates Unit "Xabc".toList = [⟨"Abc".toList, 1, none⟩] := by
  have hlookup : ∀ q ∈ (englishOver smallList 1).queries "Xabc".toList,
      smallList.lookup q 2 = ["abc".toList] := by
    refine List.forall_mem_cons.mpr ⟨?_, List.forall_mem_singleton.mpr ?_⟩
    · exact WordList.lookup_of_within [⟨1, 0, "abc".toList⟩] (by decide) rfl (by decide)
    · exact WordList.lookup_of_within [⟨1, 0, "abc".toList⟩] (by decide) rfl (by decide)
  rw [Speller.candidates_of_found rfl (Speller.found_of_lookup hlookup) (by decide)]
  rfl

/-- A speller over both lists. -/
def overBoth : MultiSpeller := ⟨2, [englishOver capitalList 1, englishOver smallList 1]⟩

/-- For "Xabc", "Abc" comes from the first list. -/
theorem candidates_xabc : overBoth.isMisspelled "Xabc".toList = true ∧
    ∃ c ∈ overBoth.candidates Unit "Xabc".toList, c.correction = "Abc".toList ∧ c.distance = 2 := by
  have hmisspelled : overBoth.isMisspelled "Xabc".toList = true := rfl
  obtain ⟨hmem, -, hfirst⟩ :=
    @candidates_distance Unit overBoth "Xabc".toList hmisspelled
  have hcapital : "Abc".toList ∈
      ((englishOver capitalList 1).candidates Unit "Xabc".toList).map (·.correction) := by
    rw [candidates_capitalList]
    exact List.mem_singleton_self _
  obtain ⟨c, hc, hcorrection⟩ :=
    List.mem_map.mp ((hmem "Abc".toList).mpr ⟨_, List.mem_cons_self, hcapital⟩)
  refine ⟨hmisspelled, c, hc, hcorrection, ?_⟩
  obtain ⟨⟨before, s, after, hspellers, hs, hbefore, -⟩, -⟩ := hfirst c hc
  cases before with
  | nil =>
    obtain ⟨rfl, -⟩ := List.cons.inj hspellers
    rw [candidates_capitalList, List.mem_singleton] at hs
    rw [hs]
  | cons s' before =>
    obtain ⟨rfl, -⟩ := List.cons.inj hspellers
    exact absurd (hcorrection ▸ hcapital) (hbefore _ List.mem_cons_self)

/-- A correction may come at a distance that is not the least: over both lists, "Abc" is two edits from
"Xabc", as the first list has it, although the second reports it at one edit. -/
theorem exists_farther_candidate : ∃ (ds : List Dictionary) (m : MultiSpeller) (word : Text)
    (c : Candidate Unit), make ds 2 = .ok m ∧ m.isMisspelled word = true ∧
      c ∈ m.candidates Unit word ∧ ¬ IsLeast (m.reports Unit word c.correction) c.distance := by
  have hmisspelled : overBoth.isMisspelled "Xabc".toList = true := rfl
  have hcapital : (⟨"Abc".toList, 2, none⟩ : Candidate Unit) ∈
      (englishOver capitalList 1).candidates Unit "Xabc".toList := by
    rw [candidates_capitalList]
    exact List.mem_singleton_self _
  have hsmall : (⟨"Abc".toList, 1, none⟩ : Candidate Unit) ∈
      (englishOver smallList 1).candidates Unit "Xabc".toList := by
    rw [candidates_smallList]
    exact List.mem_singleton_self _
  refine ⟨[capitalList, smallList], overBoth, "Xabc".toList, ⟨"Abc".toList, 2, none⟩, rfl,
    hmisspelled, mem_candidates_of_head rfl hmisspelled hcapital, ?_⟩
  rintro ⟨-, hleast⟩
  have hmem : englishOver smallList 1 ∈ overBoth.spellers :=
    List.mem_cons_of_mem _ (List.mem_singleton_self _)
  have hle : (2 : Int) ≤ 1 := hleast ⟨_, hmem, _, hsmall, rfl, rfl⟩
  exact absurd hle (by decide)

end Examples

/-! ### More dictionaries -/

section Make

/-- Whether dictionaries are told apart by their numbers. -/
def AreNumbered (dictionaries : List Dictionary) : Prop :=
  ∀ d ∈ dictionaries, ∀ d' ∈ dictionaries, d.number = d'.number → d = d'

theorem AreNumbered.mono {ds ds' : List Dictionary} (h : AreNumbered ds') (hsub : ds ⊆ ds') :
    AreNumbered ds :=
  fun d hd d' hd' => h d (hsub hd) d' (hsub hd')

/-- The spellers are those over the dictionaries. -/
theorem exists_make {ds : List Dictionary} {n : Int} (hn : 0 < n) (h : AreNumbered ds) (l : Locale)
    (splits : Bool) : ∃ m, make ds n l splits = .ok m ∧
      ∀ s, s ∈ m.spellers ↔ ∃ d ∈ ds, (⟨d, n, hn, l, splits⟩ : Speller) = s := by
  refine ⟨_, dif_pos hn, fun s => ?_⟩
  rw [List.mem_map]
  simp only [mem_distinctBy_iff_of_injective h]

variable {m m' : MultiSpeller} {word : Text}

theorem isMisspelled_mono (hsub : m.spellers ⊆ m'.spellers) (h : m'.isMisspelled word = true) :
    m.isMisspelled word = true := by
  rw [isMisspelled_iff] at h ⊢
  exact ⟨h.1, fun s hs => h.2 s (hsub hs)⟩

theorem suggestions_mono (hsub : m.spellers ⊆ m'.spellers) (h : m.isMisspelled word = true)
    (h' : m'.isMisspelled word = true) : m.suggestions word ⊆ m'.suggestions word := by
  intro t ht
  obtain ⟨s, hs, hsuggests⟩ := (mem_corrections_iff h).mp ht
  exact (mem_corrections_iff h').mpr ⟨s, hsub hs, hsuggests⟩

/-- Over the same spellers, in whatever order, the same words are reported with the same corrections. -/
theorem suggestions_congr (hsub : m.spellers ⊆ m'.spellers) (hsub' : m'.spellers ⊆ m.spellers)
    (word : Text) : m.isMisspelled word = m'.isMisspelled word ∧
      ∀ t, t ∈ m.suggestions word ↔ t ∈ m'.suggestions word := by
  have hverdict : m.isMisspelled word = m'.isMisspelled word :=
    Bool.eq_iff_iff.mpr ⟨isMisspelled_mono hsub', isMisspelled_mono hsub⟩
  refine ⟨hverdict, fun t => ?_⟩
  cases h : m.isMisspelled word with
  | false =>
    have h' : m'.isMisspelled word = false := by rw [← hverdict, h]
    rw [suggestions, suggestions, candidates_of_not_isMisspelled h, candidates_of_not_isMisspelled h']
  | true =>
    have h' : m'.isMisspelled word = true := by rw [← hverdict, h]
    exact ⟨fun ht => suggestions_mono hsub h h' ht, fun ht => suggestions_mono hsub' h' h ht⟩

/-- **More dictionaries.**  With more dictionaries no more words are reported, and what was suggested for
a word that is still reported still is.  Over the same dictionaries, whatever their order and however often
each is given, the same words are reported and the same corrections are suggested. -/
theorem make_monotone {ds ds' : List Dictionary} (hnumbered : AreNumbered ds') (hsub : ds ⊆ ds')
    {n : Int} (hn : 0 < n) (l : Locale) (splits : Bool) :
    ∃ m m', make ds n l splits = .ok m ∧ make ds' n l splits = .ok m' ∧
      (∀ word, m'.isMisspelled word = true → m.isMisspelled word = true) ∧
      (∀ word, m.isMisspelled word = true → m'.isMisspelled word = true →
        m.suggestions word ⊆ m'.suggestions word) ∧
      (ds' ⊆ ds → ∀ word, m.isMisspelled word = m'.isMisspelled word ∧
        ∀ t, t ∈ m.suggestions word ↔ t ∈ m'.suggestions word) := by
  obtain ⟨m, hm, hspellers⟩ := exists_make hn (hnumbered.mono hsub) l splits
  obtain ⟨m', hm', hspellers'⟩ := exists_make hn hnumbered l splits
  have hfewer : m.spellers ⊆ m'.spellers := by
    intro s hs
    obtain ⟨d, hd, rfl⟩ := (hspellers s).mp hs
    exact (hspellers' _).mpr ⟨d, hsub hd, rfl⟩
  refine ⟨m, m', hm, hm', fun word => isMisspelled_mono hfewer,
    fun word => suggestions_mono hfewer, fun hsub' => suggestions_congr hfewer ?_⟩
  intro s hs
  obtain ⟨d, hd, rfl⟩ := (hspellers' s).mp hs
  exact (hspellers _).mpr ⟨d, hsub' hd, rfl⟩

/-- What the list of "abc" suggests for "Xabc" is suggested beside the list of "Abc" too. -/
theorem make_monotone_xabc : AreNumbered [capitalList, smallList, capitalList] ∧
    ∃ m, make [capitalList, smallList, capitalList] 2 = .ok m ∧
      "Abc".toList ∈ m.suggestions "Xabc".toList := by
  have hnumbered : AreNumbered [capitalList, smallList, capitalList] := by
    have htwo : ∀ d ∈ [capitalList, smallList, capitalList], d = capitalList ∨ d = smallList := by
      simp
    intro d hd d' hd' hnumber
    rcases htwo d hd with rfl | rfl <;> rcases htwo d' hd' with rfl | rfl
    · rfl
    · exact absurd hnumber (by decide)
    · exact absurd hnumber (by decide)
    · rfl
  have hsub : [smallList] ⊆ [capitalList, smallList, capitalList] := by
    intro d hd
    rw [List.mem_singleton.mp hd]
    exact List.mem_cons_of_mem _ List.mem_cons_self
  obtain ⟨m, m', hm, hm', -, hmore, -⟩ :=
    make_monotone hnumbered hsub (by decide : (0 : Int) < 2) .english true
  obtain rfl : ⟨2, [englishOver smallList 1]⟩ = m := Except.ok.inj hm
  obtain rfl : overBoth = m' := Except.ok.inj hm'
  refine ⟨hnumbered, overBoth, rfl, hmore "Xabc".toList rfl rfl ?_⟩
  refine (mem_corrections_iff rfl).mpr ⟨_, List.mem_singleton_self _, ?_⟩
  rw [candidates_smallList]
  exact List.mem_singleton_self _

end Make

end MultiSpeller

end Copyedit.Spelling
