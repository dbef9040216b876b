import Copyedit.Proofs.Outcome
import Copyedit.Proofs.Sequence
import Copyedit.Ranking.Ranker

/-!
# What ranking keeps, and what it looks at

Ranking gives candidates scores and another order, and leaves their corrections and distances alone
(`rankCandidates_perm`).  It looks at some tokens before the misspelled one and at as many after it, never at
the misspelled one itself (`window_congr`), so that in contexts that agree there the results are the same
(`rankCandidates_congr_near`, `rank_congr_near`).
-/

namespace Copyedit.Ranking.Ranker

open Spelling (Candidate)

variable {S : Type} [LT S] [DecidableLT S] {r : Ranker S} {candidates ranked : List (Candidate S)}
  {context : List (Option Text)} {position : Int}

/-- Ranking yields the given corrections, with their distances, in some order. -/
theorem rankCandidates_perm (h : r.rankCandidates candidates context position = .ok ranked) :
    (ranked.map fun c => (c.correction, c.distance)).Perm
      (candidates.map fun c => (c.correction, c.distance)) := by
  unfold rankCandidates at h
  split at h
  · obtain rfl : candidates = ranked := Except.ok.inj h
    exact List.Perm.refl _
  · obtain ⟨scored, hscored, rfl⟩ := map_ok_iff.mp h
    have hkept : List.Forall₂ (fun c c' : Candidate S =>
        (c.correction, c.distance) = (c'.correction, c'.distance)) candidates scored := by
      refine (mapM_ok_iff.mp hscored).imp ?_
      intro c c' hc'
      obtain ⟨score, -, rfl⟩ := map_ok_iff.mp hc'
      rfl
    have hsame : candidates.map (fun c => (c.correction, c.distance)) =
        scored.map fun c => (c.correction, c.distance) := by
      rw [← List.forall₂_eq_eq_eq, List.forall₂_map_left_iff, List.forall₂_map_right_iff]
      exact hkept
    rw [hsame]
    exact (List.mergeSort_perm scored Candidate.le).map _

/-! ### The context -/

section Context

variable {context' : List (Option Text)}

/-- Two contexts have the same tokens near a position, the one at the position itself apart. -/
def AgreeNear (r : Ranker S) (context context' : List (Option Text)) (position : Int) : Prop :=
  ∀ i : Nat, (i : Int) ≠ position → position - r.contextLength ≤ i → i ≤ position + r.contextLength →
    context[i]? = context'[i]?

section Agree

variable (hposition : 0 ≤ position) (h : r.AgreeNear context context' position)

include hposition h

omit [LT S] [DecidableLT S] in
/-- The window ends as far from the misspelled token as the ranker looks. -/
theorem window_congr (suggestion : Text) :
    r.window suggestion context position = r.window suggestion context' position := by
  have hleft : stretch context (max 0 (position - r.contextLength)) (max 0 position) =
      stretch context' (max 0 (position - r.contextLength)) (max 0 position) := by
    exact stretch_congr (by omega) (by omega) fun i hstart hstop => h i (by omega) (by omega) (by omega)
  have hright : stretch context (position + 1) (position + 1 + r.contextLength) =
      stretch context' (position + 1) (position + 1 + r.contextLength) := by
    exact stretch_congr (by omega) (by omega) fun i hstart hstop => h i (by omega) (by omega) (by omega)
  rw [window, window, hleft, hright]

omit [LT S] [DecidableLT S] in
theorem score_congr (suggestion : Text) :
    r.score suggestion context position = r.score suggestion context' position := by
  unfold score
  rw [window_congr hposition h]

/-- Ranking candidates depends on what is near the misspelled token alone, and not on that token. -/
theorem rankCandidates_congr_near : r.rankCandidates candidates context position =
    r.rankCandidates candidates context' position := by
  unfold rankCandidates
  simp only [score_congr hposition h]

/-- So does ranking suggestions. -/
theorem rank_congr_near {suggestions : List Text} : r.rank suggestions context position =
    r.rank suggestions context' position := by
  unfold rank
  simp only [score_congr hposition h]

end Agree

/-- Ranking depends on what is before and after the misspelled token alone. -/
theorem rankCandidates_congr {i : Nat} (hbefore : context.take i = context'.take i)
    (hafter : context.drop (i + 1) = context'.drop (i + 1)) :
    r.rankCandidates candidates context i = r.rankCandidates candidates context' i := by
  refine rankCandidates_congr_near (Int.natCast_nonneg i) fun j hne _ _ => ?_
  rcases Nat.lt_or_gt_of_ne (Int.ofNat_inj.not.mp hne) with hlt | hgt
  · have htake := congrArg (·[j]?) hbefore
    simpa [List.getElem?_take, hlt] using htake
  · have hdrop := congrArg (·[j - (i + 1)]?) hafter
    simpa [List.getElem?_drop, show i + 1 + (j - (i + 1)) = j by omega] using hdrop

end Context

end Copyedit.Ranking.Ranker
