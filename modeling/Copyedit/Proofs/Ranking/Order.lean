import Copyedit.Proofs.Ranking.Ranker
import Copyedit.Proofs.Sorting
import Mathlib.Data.Prod.Lex
import Mathlib.Order.WithBot

/-!
# The order of ranked suggestions

With a model whose scores are in a linear order, ranking is sorting by a key.  Candidates have their score, their
distance and their correction in it (`Candidate.key`), which is all that there is in a candidate
(`Candidate.key_injective`), so that the order in which they are given makes no difference.  Suggestions have their
score alone, so that equally likely ones stay in the order in which they are given.

The main statement `rank_ordered` says so of both, and that both look at no token but those near the misspelled
one.
-/

namespace Copyedit

namespace Spelling.Candidate

variable {S : Type} {a b : Candidate S}

/-! ### Candidates in order -/

/-- The score as it is compared: without one, a candidate is behind all others. -/
def rating (c : Candidate S) : WithBot S :=
  match c.score with
  | none => ⊥
  | some x => x

/-- A candidate as it is compared. -/
def key (c : Candidate S) : (WithBot S)ᵒᵈ ×ₗ ℤ ×ₗ Text :=
  toLex (OrderDual.toDual c.rating, toLex (c.distance, c.correction))

theorem score_eq_of_rating_eq (h : a.rating = b.rating) : a.score = b.score := by
  unfold rating at h
  cases ha : a.score with
  | none =>
    cases hb : b.score with
    | none => rfl
    | some y => simp [ha, hb] at h
  | some x =>
    cases hb : b.score with
    | none => simp [ha, hb] at h
    | some y => simpa [ha, hb] using h

/-- Nothing but its key is in a candidate. -/
theorem key_injective : Function.Injective (key : Candidate S → _) := by
  intro a b h
  have hfields : a.rating = b.rating ∧ a.distance = b.distance ∧ a.correction = b.correction := by
    simpa [key] using h
  obtain ⟨hrating, hdistance, hcorrection⟩ := hfields
  have hscore := score_eq_of_rating_eq hrating
  cases a
  cases b
  rw [mk.injEq]
  exact ⟨hcorrection, hdistance, hscore⟩

theorem leByText_iff : leByText a b = true ↔
    a.distance < b.distance ∨ a.distance = b.distance ∧ a.correction ≤ b.correction := by
  rw [leByText, Bool.or_eq_true, Bool.and_eq_true, decide_eq_true_eq, beq_iff_eq, Text.le_iff]

variable [LinearOrder S]

theorem key_le_key_iff : a.key ≤ b.key ↔ b.rating < a.rating ∨ a.rating = b.rating ∧
    (a.distance < b.distance ∨ a.distance = b.distance ∧ a.correction ≤ b.correction) := by
  rw [key, key, Prod.Lex.toLex_le_toLex, Prod.Lex.toLex_le_toLex, OrderDual.toDual_lt_toDual,
    OrderDual.toDual_inj]

/-- Candidates are compared by their keys. -/
theorem le_eq : (le : Candidate S → Candidate S → Bool) = fun a b => decide (a.key ≤ b.key) := by
  funext a b
  rw [Bool.eq_iff_iff, decide_eq_true_eq, key_le_key_iff, ← leByText_iff]
  unfold le rating
  cases a.score with
  | none => cases b.score <;> simp
  | some x =>
    cases b.score with
    | none => simp
    | some y =>
      rcases lt_trichotomy x y with hlt | rfl | hgt
      · simp [hlt, hlt.ne, hlt.not_gt]
      · simp
      · simp [hgt]

theorem ordered_eq (candidates : List (Candidate S)) :
    ordered candidates = candidates.mergeSort fun a b => a.key ≤ b.key := by
  rw [ordered, le_eq]

/-- In order, candidates do not depend on the order in which they were given. -/
theorem ordered_eq_of_perm {candidates candidates' : List (Candidate S)} (h : candidates.Perm candidates') :
    ordered candidates = ordered candidates' := by
  rw [ordered_eq, ordered_eq]
  have hsorted := pairwise_mergeSort_key key candidates
  have hsorted' := pairwise_mergeSort_key key candidates'
  have hperm : (candidates.mergeSort fun a b => a.key ≤ b.key).Perm
      (candidates'.mergeSort fun a b => a.key ≤ b.key) :=
    ((List.mergeSort_perm candidates _).trans h).trans (List.mergeSort_perm candidates' _).symm
  refine List.Perm.eq_of_pairwise (fun a b _ _ hab hba => ?_) hsorted hsorted' hperm
  exact key_injective (le_antisymm hab hba)

/-- Whether a judged candidate may stand before another: it has the higher score, or the same and the smaller
distance, or the same of both and is not behind it in alphabetical order. -/
def MayPrecede (a b : Candidate S) : Prop :=
  ∃ x y, a.score = some x ∧ b.score = some y ∧ (y < x ∨ x = y ∧
    (a.distance < b.distance ∨ a.distance = b.distance ∧ a.correction ≤ b.correction))

/-- A candidate with a score. -/
def judged (f : Text → S) (c : Candidate S) : Candidate S := { c with score := some (f c.correction) }

theorem mayPrecede_of_key_le {f : Text → S} {c d : Candidate S} (h : (c.judged f).key ≤ (d.judged f).key) :
    (c.judged f).MayPrecede (d.judged f) := by
  refine ⟨f c.correction, f d.correction, rfl, rfl, ?_⟩
  rw [key_le_key_iff] at h
  simpa [judged, rating] using h

theorem pairwise_ordered_judged (f : Text → S) (candidates : List (Candidate S)) :
    (ordered (candidates.map (·.judged f))).Pairwise MayPrecede := by
  rw [ordered_eq]
  have hperm := List.mergeSort_perm (candidates.map (·.judged f)) fun a b => a.key ≤ b.key
  refine (pairwise_mergeSort_key key (candidates.map (·.judged f))).imp_of_mem ?_
  intro a b ha hb hle
  obtain ⟨c, -, rfl⟩ := List.mem_map.mp (hperm.mem_iff.mp ha)
  obtain ⟨d, -, rfl⟩ := List.mem_map.mp (hperm.mem_iff.mp hb)
  exact mayPrecede_of_key_le hle

end Spelling.Candidate

namespace Ranking.Ranker

open Spelling (Candidate)

variable {S : Type} [LinearOrder S] {r : Ranker S} {f : Text → S} {candidates : List (Candidate S)}
  {suggestions : List Text} {context : List (Option Text)} {position : Int}

/-! ### Ranking as sorting -/

/-- With a score for each candidate, ranking puts the judged candidates in order. -/
theorem rankCandidates_eq (hmodel : r.isPassThrough = false)
    (h : ∀ c ∈ candidates, r.score c.correction context position = .ok (f c.correction)) :
    r.rankCandidates candidates context position =
      .ok (Candidate.ordered (candidates.map (·.judged f))) := by
  have hjudged : (candidates.mapM fun c => do
      return { c with score := some (← r.score c.correction context position) }) =
        (.ok (candidates.map (·.judged f)) : Except Error (List (Candidate S))) := by
    rw [mapM_ok_iff, List.forall₂_map_right_iff, List.forall₂_same]
    intro c hc
    rw [h c hc]
    rfl
  rw [rankCandidates, hmodel, if_neg Bool.false_ne_true, hjudged]
  rfl

/-- With a score for each suggestion, ranking sorts them by it. -/
theorem rank_eq (hmodel : r.isPassThrough = false)
    (h : ∀ t ∈ suggestions, r.score t context position = .ok (f t)) :
    r.rank suggestions context position =
      .ok (suggestions.mergeSort fun s t => OrderDual.toDual (f s) ≤ OrderDual.toDual (f t)) := by
  have hscored : (suggestions.mapM fun s => do return (← r.score s context position, s)) =
      (.ok (suggestions.map fun s => (f s, s)) : Except Error (List (S × Text))) := by
    rw [mapM_ok_iff, List.forall₂_map_right_iff, List.forall₂_same]
    intro t ht
    rw [h t ht]
    rfl
  have hsame : ∀ a ∈ suggestions.map fun s => (f s, s), ∀ b ∈ suggestions.map fun s => (f s, s),
      (!decide (a.1 < b.1)) = decide (OrderDual.toDual (f a.2) ≤ OrderDual.toDual (f b.2)) := by
    intro a ha b hb
    obtain ⟨s, -, rfl⟩ := List.mem_map.mp ha
    obtain ⟨t, -, rfl⟩ := List.mem_map.mp hb
    rw [Bool.eq_iff_iff, Bool.not_eq_true', decide_eq_false_iff_not, decide_eq_true_eq,
      OrderDual.toDual_le_toDual, not_lt]
  have hmap : (suggestions.map fun s => (f s, s)).map (·.2) = suggestions := by
    rw [List.map_map]
    exact List.map_id' suggestions
  rw [rank, hmodel, if_neg Bool.false_ne_true, hscored]
  show Except.ok (((suggestions.map fun s => (f s, s)).mergeSort fun a b => !decide (a.1 < b.1)).map (·.2)) = _
  rw [List.map_mergeSort (s := fun s t => OrderDual.toDual (f s) ≤ OrderDual.toDual (f t)) hsame, hmap]

/-- **Ranking.**  With a score for each candidate in its place, ranking yields the candidates with their scores: the
higher scores first, then the smaller distances, then in alphabetical order, in whatever order they are given.  With
a score for each suggestion it yields the suggestions: the higher scores first, and those of one score in the order
in which they are given.  Neither depends on other tokens than those around the misspelled one, as far from it as the
ranker looks. -/
theorem rank_ordered (hmodel : r.isPassThrough = false)
    (hjudged : ∀ c ∈ candidates, r.score c.correction context position = .ok (f c.correction))
    (hscored : ∀ t ∈ suggestions, r.score t context position = .ok (f t)) :
    (∃ ranked, r.rankCandidates candidates context position = .ok ranked ∧
      ranked.Perm (candidates.map (·.judged f)) ∧ ranked.Pairwise Candidate.MayPrecede ∧
      ∀ candidates', candidates'.Perm candidates →
        r.rankCandidates candidates' context position = .ok ranked) ∧
    (∃ ranked, r.rank suggestions context position = .ok ranked ∧
      ranked.Perm suggestions ∧ ranked.Pairwise (fun s t => f t ≤ f s) ∧
      ∀ x, ranked.filter (fun t => f t = x) = suggestions.filter fun t => f t = x) ∧
    (0 ≤ position → ∀ context', r.AgreeNear context context' position →
      r.rankCandidates candidates context' position = r.rankCandidates candidates context position ∧
      r.rank suggestions context' position = r.rank suggestions context position) := by
  refine ⟨⟨_, rankCandidates_eq hmodel hjudged, ?_, ?_, fun candidates' hperm => ?_⟩,
    ⟨_, rank_eq hmodel hscored, ?_, ?_, fun x => ?_⟩, fun hposition context' hagree => ⟨?_, ?_⟩⟩
  · exact List.mergeSort_perm _ _
  · exact Candidate.pairwise_ordered_judged f candidates
  · have hjudged' : ∀ c ∈ candidates', r.score c.correction context position = .ok (f c.correction) :=
      fun c hc => hjudged c (hperm.mem_iff.mp hc)
    rw [rankCandidates_eq hmodel hjudged', Candidate.ordered_eq_of_perm (hperm.map _)]
  · exact List.mergeSort_perm _ _
  · exact (pairwise_mergeSort_key (fun t => OrderDual.toDual (f t)) suggestions).imp OrderDual.toDual_le_toDual.mp
  · have hfilter := filter_mergeSort_key (fun t => OrderDual.toDual (f t)) suggestions (OrderDual.toDual x)
    simpa using hfilter
  · exact (rankCandidates_congr_near hposition hagree).symm
  · exact (rank_congr_near hposition hagree).symm

/-! ### A model that counts a word -/

section Examples

/-- A ranker that looks one token to either side and counts how often a word stands there. -/
def counting (w : Text) : Ranker Nat where
  model := some { name := "count", shown := "count", score := fun tokens => .ok (tokens.count (some w)) }
  contextLength := 1

/-- Four tokens, the second of which is misspelled. -/
def theSun : List (Option Text) := ["the".toList, "snu".toList, "sun".toList, "sun".toList].map some

/-- Four tokens that are the same near the second one. -/
def theSunSets : List (Option Text) := ["the".toList, "sn".toList, "sun".toList, "sets".toList].map some

/-- The number of times that the word is in the window. -/
def sunsWith (t : Text) : Nat := ((counting "sun".toList).window t theSun 1).count (some "sun".toList)

/-- Three suggestions, one of them twice. -/
def fourWords : List Text := ["son".toList, "sun".toList, "san".toList, "sun".toList]

/-- The suggestions as candidates. -/
def fourCandidates : List (Candidate Nat) := fourWords.map fun t => { correction := t, distance := 1 }

/-- "sun" is put first, as often as it is given, and the others stay in order; the candidates come in one order,
given forward or backward. -/
theorem rank_sun :
    (counting "sun".toList).isPassThrough = false ∧
    (∀ c ∈ fourCandidates, (counting "sun".toList).score c.correction theSun 1 = .ok (sunsWith c.correction)) ∧
    (∀ t ∈ fourWords, (counting "sun".toList).score t theSun 1 = .ok (sunsWith t)) ∧
    (counting "sun".toList).AgreeNear theSun theSunSets 1 ∧
    (∃ ranked, (counting "sun".toList).rankCandidates fourCandidates theSunSets 1 = .ok ranked ∧
      (counting "sun".toList).rankCandidates fourCandidates.reverse theSun 1 = .ok ranked ∧
      ranked.Pairwise Candidate.MayPrecede) ∧
    ∃ ranked, (counting "sun".toList).rank fourWords theSunSets 1 = .ok ranked ∧
      ranked.Pairwise (fun s t => sunsWith t ≤ sunsWith s) ∧
      ranked.filter (fun t => sunsWith t = 2) = ["sun".toList, "sun".toList] ∧
      ranked.filter (fun t => sunsWith t = 1) = ["son".toList, "san".toList] := by
  have hmodel : (counting "sun".toList).isPassThrough = false := rfl
  have hjudged : ∀ c ∈ fourCandidates,
      (counting "sun".toList).score c.correction theSun 1 = .ok (sunsWith c.correction) := fun _ _ => rfl
  have hscored : ∀ t ∈ fourWords, (counting "sun".toList).score t theSun 1 = .ok (sunsWith t) := fun _ _ => rfl
  have hagree : (counting "sun".toList).AgreeNear theSun theSunSets 1 := by
    intro i hne hfirst hlast
    have hlast' : (i : Int) ≤ 2 := hlast
    obtain rfl | rfl : i = 0 ∨ i = 2 := by omega
    · rfl
    · rfl
  obtain ⟨⟨judged, hjudging, -, hordered, hperm⟩, ⟨ranked, hranked, -, hsorted, hties⟩, hnear⟩ :=
    rank_ordered hmodel hjudged hscored
  obtain ⟨hsame, hsame'⟩ := hnear (by decide) theSunSets hagree
  refine ⟨hmodel, hjudged, hscored, hagree,
    ⟨judged, hsame.trans hjudging, hperm _ (List.reverse_perm _), hordered⟩,
    ranked, hsame'.trans hranked, hsorted, (hties 2).trans ?_, (hties 1).trans ?_⟩
  · decide +kernel
  · decide +kernel

end Examples

end Ranking.Ranker

end Copyedit
