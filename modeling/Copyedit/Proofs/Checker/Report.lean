import Copyedit.Proofs.Checker.Run
import Copyedit.Proofs.Sentence.Split
import Copyedit.Proofs.Sequence
import Mathlib.Data.List.Perm.Basic

/-!
# Reports

The findings of the rules on texts are filed one by one, each at the end of what is there for the sentence
in which it starts.  Seen from a sentence, that appends the findings that are filed under it, in their
order (`foldl_file`); where sentences come in the order of their positions, those are the findings that
start in it (`filedAt_eq_iff`); and each finding is filed exactly once (`flatMap_filter_perm`).  Together
with what a run does about failures that gives the main statement `check_isReport`.
-/

namespace Copyedit

/-- Items put into numbered places, each into one, are all there. -/
theorem flatMap_filter_perm {α : Type} (place : α → Nat) (n : Nat) (items : List α) :
    ((List.range n).flatMap fun i => items.filter fun a => place a = i).Perm
      (items.filter fun a => place a < n) := by
  induction n with
  | zero =>
    have hnone : items.filter (fun a => place a < 0) = [] :=
      List.filter_eq_nil_iff.mpr fun a _ => by simp only [Nat.not_lt_zero, decide_false, Bool.false_eq_true,
        not_false_eq_true]
    rw [hnone]
    exact List.Perm.refl _
  | succ n ih =>
    rw [List.range_succ, List.flatMap_append, List.flatMap_singleton]
    refine (ih.append_right _).trans ?_
    -- of the items before place `n + 1`, those before `n` and the others
    have hsplit := List.filter_append_perm (fun a => place a < n) (items.filter fun a => place a < n + 1)
    rw [List.filter_filter, List.filter_filter] at hsplit
    have hbefore : items.filter (fun a => decide (place a < n) && decide (place a < n + 1)) =
        items.filter fun a => place a < n :=
      List.filter_congr fun a _ => by grind
    have hat : items.filter (fun a => !decide (place a < n) && decide (place a < n + 1)) =
        items.filter fun a => place a = n :=
      List.filter_congr fun a _ => by grind
    rwa [hbefore, hat] at hsplit

namespace Checker

/-! ### Filing -/

/-- The index of the sentence under which a finding is filed. -/
def filedAt (starts : List Int) (f : Finding) : Nat := placeOf starts.toArray f.start - 1

/-- Seen from a sentence, filing appends the findings that are filed under it, in their order. -/
theorem foldl_file (starts : List Int) (found : List Finding) (filed : List (List Finding)) :
    found.foldl (file starts.toArray) filed =
      filed.zipIdx.map fun e => e.1 ++ found.filter fun f => filedAt starts f = e.2 := by
  induction found generalizing filed with
  | nil =>
    have hfst : (fun e : List Finding × Nat => e.1 ++ [].filter fun f => filedAt starts f = e.2) =
        Prod.fst := funext fun e => List.append_nil e.1
    rw [List.foldl_nil, hfst, List.zipIdx_map_fst]
  | cons f rest ih =>
    rw [List.foldl_cons, ih]
    refine List.ext_getElem? fun i => ?_
    unfold file
    rw [List.getElem?_map, List.getElem?_zipIdx, List.getElem?_modify, List.getElem?_map,
      List.getElem?_zipIdx]
    -- place by place: only that of `f` is changed
    change (((fun a => if filedAt starts f = i then a ++ [f] else a) <$> filed[i]?).map _).map _ = _
    cases filed[i]? with
    | none => rfl
    | some group =>
      by_cases hi : filedAt starts f = i
      · simp [hi]
      · simp [hi]

/-- Whether a finding starts in a sentence: not before it, unless it is the first, and before the next. -/
def startsIn (sentences : List Sentence) (e : Sentence × Nat) (f : Finding) : Bool :=
  (e.2 = 0 || e.1.start ≤ f.start) && (sentences[e.2 + 1]?.all fun next => f.start < next.start)

/-- Where sentences come in the order of their positions, a finding is filed under the sentence in which
it starts. -/
theorem filedAt_eq_iff {sentences : List Sentence}
    (hsorted : (sentences.map (·.start)).Pairwise (· ≤ ·)) {e : Sentence × Nat}
    (he : e ∈ sentences.zipIdx) (f : Finding) :
    filedAt (sentences.map (·.start)) f = e.2 ↔ startsIn sentences e f = true := by
  obtain ⟨s, i⟩ := e
  obtain ⟨hi, hs⟩ := List.mem_zipIdx' he
  have hplace : ∀ (j : Nat) (hj : j < sentences.length),
      j < placeOf (sentences.map (·.start)).toArray f.start ↔ sentences[j].start ≤ f.start := by
    intro j hj
    have h := lt_placeOf_iff (x := f.start) hsorted (i := j) (by rwa [List.length_map])
    rwa [List.getElem_map] at h
  have hle := placeOf_le (sentences.map (·.start)) f.start
  rw [List.length_map] at hle
  have hthis := hplace i hi
  unfold filedAt startsIn
  dsimp only
  rw [Bool.and_eq_true, Bool.or_eq_true, decide_eq_true_eq, decide_eq_true_eq, hs, ← hthis]
  -- the next sentence is there, or this is the last one
  rcases Nat.lt_or_ge (i + 1) sentences.length with hnext | hlast
  · rw [List.getElem?_eq_getElem hnext, Option.all_some, decide_eq_true_eq, ← Int.not_le,
      ← hplace (i + 1) hnext]
    omega
  · rw [List.getElem?_eq_none hlast, Option.all_none]
    simp only [and_true]
    omega

/-! ### Main statement -/

variable (c : Checker)

/-- The sentences of a text with their tokens. -/
def analyzed (t : Text) : List Sentence := (c.profile.split t).map fun e => c.analyzeSentence e.2 e.1

/-- The findings sentence by sentence: on each those of the rules on sentences, then those of the rules on
texts that start in it. -/
def merged (sentences : List Sentence) (text : Option Text) : List Finding :=
  sentences.zipIdx.flatMap fun e =>
    c.foundOn e.1 ++ (c.foundIn sentences text).filter (startsIn sentences e)

/-- What a report says, given what the rules give back. -/
structure IsReport (sentences : List Sentence) (text : Option Text) (r : Report) : Prop where
  /-- The number of sentences is right. -/
  sentenceCount_eq : r.sentenceCount = sentences.length
  /-- The findings come sentence by sentence, and for each in the order of the rules. -/
  findings_eq : r.findings = c.merged sentences text
  /-- Each finding of a rule that did not fail is there once. -/
  findings_perm : r.findings.Perm ((c.outcomes sentences text).flatMap Outcome.found)
  /-- There are as many failures as calls that failed. -/
  length_failures : r.failures.length = (c.outcomes sentences text).countP Outcome.hasFailed

theorem findings_reportOn (sentences : List Sentence) (text : Option Text) :
    (c.reportOn sentences text).findings = sentences.zipIdx.flatMap fun e =>
      c.foundOn e.1 ++
        (c.foundIn sentences text).filter fun f => filedAt (sentences.map (·.start)) f = e.2 := by
  unfold reportOn
  dsimp only
  rw [foldl_file, List.zipIdx_map, List.map_map]
  exact List.flatMap_def.symm

/-- The findings of the rules on texts are all filed, whatever the order of the sentences. -/
theorem findings_reportOn_perm (sentences : List Sentence) (text : Option Text) :
    (c.reportOn sentences text).findings.Perm
      ((c.outcomes sentences text).flatMap Outcome.found) := by
  rw [findings_reportOn]
  unfold outcomes
  rw [List.flatMap_append, List.flatMap_assoc]
  refine (List.flatMap_append_perm ..).symm.trans (List.Perm.append ?_ ?_)
  · rw [← List.flatMap_map Prod.fst c.foundOn, List.zipIdx_map_fst]
    exact List.Perm.refl _
  · rw [← List.flatMap_map Prod.snd fun i => (c.foundIn sentences text).filter fun f =>
      filedAt (sentences.map (·.start)) f = i, List.zipIdx_map_snd, ← List.range_eq_range']
    refine (flatMap_filter_perm ..).trans (List.Perm.of_eq (List.filter_eq_self.mpr fun f hf => ?_))
    -- there is a finding, hence there are sentences
    have hne : sentences ≠ [] := by
      rintro rfl
      exact List.not_mem_nil hf
    have hle := placeOf_le (sentences.map (·.start)) f.start
    have hpos := List.length_pos_iff.mpr hne
    rw [List.length_map] at hle
    unfold filedAt
    rw [decide_eq_true_eq]
    omega

theorem reportOn_isReport {sentences : List Sentence}
    (hsorted : (sentences.map (·.start)).Pairwise (· ≤ ·)) (text : Option Text) :
    c.IsReport sentences text (c.reportOn sentences text) where
  sentenceCount_eq := rfl
  findings_eq := by
    rw [findings_reportOn]
    refine List.flatMap_congr fun e he => ?_
    refine congrArg _ (List.filter_congr fun f _ => ?_)
    rw [Bool.eq_iff_iff, decide_eq_true_eq]
    exact filedAt_eq_iff hsorted he f
  findings_perm := findings_reportOn_perm c sentences text
  length_failures := by
    unfold reportOn outcomes textOutcomes outcomesOn
    dsimp only
    rw [List.length_append, List.countP_append, List.length_flatMap, List.countP_flatMap]
    simp only [length_failuresAt]
    split
    · rfl
    · rw [length_failuresAt]
      rfl

theorem pairwise_start_analyzed {t : Text} (h : (c.profile.split t).Pairwise fun a b => a.1 ≤ b.1) :
    ((c.analyzed t).map (·.start)).Pairwise (· ≤ ·) := by
  unfold analyzed
  rw [List.map_map, List.pairwise_map]
  exact h.imp Int.ofNat_le.mpr

theorem check_eq (t : Text) : c.check (some t) = unlessStopped c.settings.onFailure
    (c.outcomes (c.analyzed t) (some t)) (c.reportOn (c.analyzed t) (some t)) :=
  c.run_eq (c.analyzed t) (some t)

/-- **Reports.** Let the sentences of a text come in the order of their positions, as those of
`Text.sentences` do (`Text.sentences_ascend`).  Whichever rules fail, a report says what the others found
on each sentence, in the order of the rules, and then what rules on texts found to start there; and it has
as many failures as there were.  There is a report unless failures end the run; if they do, the run ends
with the first one, or with a report if there is none.  Without sentences no rule is called. -/
theorem check_isReport (t : Text) (h : (c.profile.split t).Pairwise fun a b => a.1 ≤ b.1) :
    (∀ r, c.check (some t) = .ok r → c.IsReport (c.analyzed t) (some t) r) ∧
    (c.settings.onFailure ≠ .raise → ∃ r, c.check (some t) = .ok r) ∧
    (c.settings.onFailure = .raise → ∀ e, c.check (some t) = .error e ↔
      ∃ before after, c.outcomes (c.analyzed t) (some t) = before ++ .error e :: after ∧
        ∀ o ∈ before, o.hasFailed = false) ∧
    (c.profile.split t = [] → c.check (some t) = .ok ⟨0, [], []⟩) := by
  rw [check_eq]
  refine ⟨fun r hr => ?_, fun hmode => ?_, fun hmode e => ?_, fun hnil => ?_⟩
  · exact eq_of_unlessStopped_eq_ok hr ▸ reportOn_isReport c (pairwise_start_analyzed c h) (some t)
  · exact ⟨_, unlessStopped_of_ne hmode _⟩
  · rw [hmode]
    exact unlessStopped_raise_eq_error_iff
  · have hnone : c.analyzed t = [] := by
      unfold analyzed
      rw [hnil, List.map_nil]
    rw [hnone]
    exact unlessStopped_nil _

/-- A finding at a position. -/
def findingAt (start : Int) : Finding := { rule := "AT", message := [], start, stop := start + 1 }

/-- A checker with rules on sentences and on texts, of which one fails on all sentences but the first, and
one on all texts. -/
def partlyFailing : Checker where
  profile := .generic
  settings := .standard
  rules :=
    let error : Error := .kind (.noLength "NoneType")
    let sentenceRule (id : String) (run : Sentence → Outcome) : Rule :=
      .foreign ⟨"Rule", id, "", .sentence run⟩
    let textRule (id : String) (run : List Sentence → Option Text → Outcome) : Rule :=
      .foreign ⟨"TextLevelRule", id, "", .text run⟩
    [textRule "T1" fun _ _ => .ok [findingAt 7, findingAt (-2), findingAt 4],
      sentenceRule "S1" fun s => if s.start = 0 then .ok [findingAt 3] else .error error,
      textRule "T2" fun _ _ => .error error,
      sentenceRule "S2" fun s => .ok [findingAt s.start]]

theorem check_partlyFailing :
    (Text.sentences "A b. C d.".toList).Pairwise (fun a b => a.1 ≤ b.1) ∧
      ∃ r, partlyFailing.check (some "A b. C d.".toList) = .ok r ∧
        r.findings.map (·.start) = [3, 0, -2, 4, 5, 7] ∧ r.failures.length = 2 := by
  have hsorted := Text.sentences_ascend "A b. C d.".toList
  obtain ⟨hreport, hreturns, -⟩ := check_isReport partlyFailing "A b. C d.".toList hsorted
  obtain ⟨r, hr⟩ := hreturns (by decide)
  refine ⟨hsorted, r, hr, ?_, ?_⟩
  · rw [(hreport r hr).findings_eq]
    decide +kernel
  · rw [(hreport r hr).length_failures]
    decide +kernel

end Checker

end Copyedit
