import Copyedit.Checker
import Mathlib.Data.List.Basic

/-!
# Rules one after the other

Rules are called in a fixed order: on each sentence those on sentences, then those on the text.  Whatever
they give back, a run either takes all of it into account or, if failures end the run, ends with the first
of them.  `unlessStopped` says that of any part of a run, and such parts compose (`unlessStopped_bind`), so
that the run as a whole is one (`run_eq`).
-/

namespace Copyedit

/-- What a rule gives back. -/
abbrev Outcome := Except Error (List Finding)

namespace Outcome

/-- The findings; none if the rule failed. -/
def found : Outcome → List Finding
  | .ok findings => findings
  | .error _ => []

/-- What went wrong, if the rule failed. -/
def failure? : Outcome → Option Error
  | .ok _ => none
  | .error e => some e

/-- Whether the rule failed. -/
def hasFailed (o : Outcome) : Bool := o.failure?.isSome

end Outcome

theorem Outcome.mem_found {o : Outcome} {f : Finding} :
    f ∈ o.found ↔ ∃ findings, o = .ok findings ∧ f ∈ findings := by
  cases o with
  | ok findings => exact ⟨fun h => ⟨findings, rfl, h⟩, fun ⟨_, h, hf⟩ => Except.ok.inj h ▸ hf⟩
  | error e => exact ⟨fun h => absurd h List.not_mem_nil, nofun⟩

theorem Outcome.failure?_eq_some_iff {o : Outcome} {e : Error} : o.failure? = some e ↔ o = .error e := by
  cases o with
  | ok found => exact ⟨nofun, nofun⟩
  | error e' => exact ⟨fun h => congrArg _ (Option.some.inj h), fun h => congrArg _ (Except.error.inj h)⟩

theorem Outcome.failure?_eq_none_iff {o : Outcome} : o.failure? = none ↔ o.hasFailed = false :=
  (Option.isSome_eq_false_iff.trans Option.isNone_iff_eq_none).symm

/-- The first failure among outcomes. -/
def firstFailure? (outcomes : List Outcome) : Option Error := outcomes.findSome? Outcome.failure?

/-! ### Parts of a run -/

section Parts

variable {α β : Type} {mode : OnFailure} {xs ys : List Outcome}

/-- A result, or the first failure among outcomes if failures end the run. -/
def unlessStopped (mode : OnFailure) (outcomes : List Outcome) (a : α) : Except Error α :=
  if mode = .raise then (firstFailure? outcomes).elim (.ok a) .error else .ok a

theorem unlessStopped_nil (a : α) : unlessStopped mode [] a = .ok a := by
  unfold unlessStopped
  split <;> rfl

theorem unlessStopped_of_ne (hmode : mode ≠ .raise) (a : α) : unlessStopped mode xs a = .ok a :=
  if_neg hmode

theorem eq_of_unlessStopped_eq_ok {a b : α} (h : unlessStopped mode xs a = .ok b) : a = b := by
  unfold unlessStopped at h
  split at h
  · cases hfirst : firstFailure? xs with
    | none =>
      rw [hfirst] at h
      exact Except.ok.inj h
    | some e =>
      rw [hfirst] at h
      cases h
  · exact Except.ok.inj h

/-- Where failures end the run, it ends with the first one. -/
theorem unlessStopped_raise_eq_error_iff {a : α} {e : Error} :
    unlessStopped .raise xs a = .error e ↔
      ∃ before after, xs = before ++ .error e :: after ∧ ∀ o ∈ before, o.hasFailed = false := by
  have hfirst : unlessStopped .raise xs a = .error e ↔ firstFailure? xs = some e := by
    unfold unlessStopped
    rw [if_pos rfl]
    cases firstFailure? xs with
    | none => exact ⟨nofun, nofun⟩
    | some e' => exact ⟨fun h => congrArg _ (Except.error.inj h), fun h => congrArg _ (Option.some.inj h)⟩
  rw [hfirst]
  unfold firstFailure?
  rw [List.findSome?_eq_some_iff]
  simp only [Outcome.failure?_eq_some_iff, Outcome.failure?_eq_none_iff]
  constructor
  · rintro ⟨before, _, after, hxs, rfl, hbefore⟩
    exact ⟨before, after, hxs, hbefore⟩
  · rintro ⟨before, after, hxs, hbefore⟩
    exact ⟨before, _, after, hxs, rfl, hbefore⟩

/-- A part of a run followed by another is a part of a run. -/
theorem unlessStopped_bind {a : α} {b : β} {next : α → Except Error β}
    (h : next a = unlessStopped mode ys b) :
    (unlessStopped mode xs a >>= next) = unlessStopped mode (xs ++ ys) b := by
  unfold unlessStopped at h ⊢
  unfold firstFailure? at h ⊢
  rw [List.findSome?_append]
  split
  · rename_i hmode
    rw [if_pos hmode] at h
    cases xs.findSome? Outcome.failure? with
    | none => exact h
    | some e => rfl
  · rename_i hmode
    rw [if_neg hmode] at h
    exact h

theorem unlessStopped_map (f : α → β) (a : α) :
    (unlessStopped mode xs a >>= fun a => pure (f a)) = unlessStopped mode xs (f a) := by
  unfold unlessStopped
  split
  · cases firstFailure? xs <;> rfl
  · rfl

/-- The failures among the outcomes of rules. -/
def failuresAt (position : Int) (call : Rule → Outcome) (rules : List Rule) : List RuleFailure :=
  rules.filterMap fun r => (call r).failure?.map fun e => ⟨r.id, position, e⟩

theorem length_failuresAt (position : Int) (call : Rule → Outcome) (rules : List Rule) :
    (failuresAt position call rules).length = (rules.map call).countP Outcome.hasFailed := by
  unfold failuresAt
  rw [List.length_filterMap_eq_countP, List.countP_map]
  refine List.countP_congr fun r _ => ?_
  rw [Option.isSome_map]
  exact Iff.rfl

variable {put : α → List Finding → α}

theorem take_eq (hnil : ∀ a, put a [] = a) (t : Tally α) (r : Rule) (position : Int) (o : Outcome) :
    t.take mode put r position o =
      unlessStopped mode [o] ⟨put t.findings o.found,
        t.failures ++ (o.failure?.map fun e => ⟨r.id, position, e⟩).toList⟩ := by
  cases o with
  | ok found =>
    unfold Tally.take unlessStopped
    have hnone : firstFailure? [.ok found] = none := rfl
    rw [hnone, Option.elim_none, ite_self]
    exact congrArg (fun l => Except.ok (Tally.mk _ l)) (List.append_nil _).symm
  | error e =>
    -- if the run goes on, a failed rule counts as one that found nothing
    unfold Tally.take unlessStopped
    dsimp only
    split
    · rfl
    · rw [show put t.findings (Outcome.found (.error e)) = t.findings from hnil _]
      rfl

/-- Rules one after the other: their findings are put together in order, and their failures listed. -/
theorem foldlM_take (hnil : ∀ a, put a [] = a) (happend : ∀ a x y, put (put a x) y = put a (x ++ y))
    (call : Rule → Outcome) (position : Int) (rules : List Rule) (t : Tally α) :
    rules.foldlM (fun t r => t.take mode put r position (call r)) t =
      unlessStopped mode (rules.map call) ⟨put t.findings ((rules.map call).flatMap Outcome.found),
        t.failures ++ failuresAt position call rules⟩ := by
  -- the first rule is one part of the run and the others are the next; `t` is what went before
  induction rules generalizing t with
  | nil =>
    rw [List.map_nil, List.flatMap_nil, hnil, unlessStopped_nil]
    exact congrArg (fun l => Except.ok (Tally.mk _ l)) (List.append_nil _).symm
  | cons r rest ih =>
    have hfailures : failuresAt position call (r :: rest) =
        ((call r).failure?.map fun e => ⟨r.id, position, e⟩).toList ++ failuresAt position call rest := by
      unfold failuresAt
      rw [List.filterMap_cons]
      cases (call r).failure? <;> rfl
    rw [hfailures, List.map_cons, List.flatMap_cons, ← happend, ← List.append_assoc, List.foldlM_cons,
      take_eq hnil]
    exact unlessStopped_bind (ih _)

end Parts

namespace Checker

variable (c : Checker)

/-! ### Calls in their order -/

/-- What the rules on sentences give back on one. -/
def outcomesOn (s : Sentence) : List Outcome := c.sentenceRules.map fun r => r.findings s

/-- What the rules on sentences find on one, those left out that fail. -/
def foundOn (s : Sentence) : List Finding := (c.outcomesOn s).flatMap Outcome.found

/-- What the rules on texts give back; without sentences none is called. -/
def textOutcomes (sentences : List Sentence) (text : Option Text) : List Outcome :=
  if sentences.isEmpty then [] else c.textRules.map fun r => r.findingsIn sentences text

/-- What the rules on texts find, those left out that fail. -/
def foundIn (sentences : List Sentence) (text : Option Text) : List Finding :=
  (c.textOutcomes sentences text).flatMap Outcome.found

/-- What all rules give back, in the order of the calls. -/
def outcomes (sentences : List Sentence) (text : Option Text) : List Outcome :=
  sentences.flatMap c.outcomesOn ++ c.textOutcomes sentences text

/-! ### Runs -/

/-- What the rules on sentences yield on one, none of them ending the run. -/
def tallyOn (s : Sentence) : Tally (List Finding) :=
  ⟨c.foundOn s, failuresAt s.start (·.findings s) c.sentenceRules⟩

theorem checkSentence_eq (s : Sentence) :
    c.checkSentence s = unlessStopped c.settings.onFailure (c.outcomesOn s) (c.tallyOn s) := by
  unfold checkSentence
  exact foldlM_take List.append_nil List.append_assoc (·.findings s) s.start c.sentenceRules ⟨[], []⟩

theorem mapM_checkSentence (sentences : List Sentence) :
    sentences.mapM c.checkSentence =
      unlessStopped c.settings.onFailure (sentences.flatMap c.outcomesOn) (sentences.map c.tallyOn) := by
  induction sentences with
  | nil =>
    rw [List.flatMap_nil, unlessStopped_nil]
    rfl
  | cons s rest ih =>
    rw [List.mapM_cons, checkSentence_eq, ih, List.flatMap_cons]
    exact unlessStopped_bind (unlessStopped_map (c.tallyOn s :: ·) _)

theorem checkText_eq {sentences : List Sentence} (hne : sentences ≠ []) (text : Option Text)
    (t : Tally (List (List Finding))) :
    c.checkText sentences text t =
      unlessStopped c.settings.onFailure (c.textOutcomes sentences text)
        ⟨(c.foundIn sentences text).foldl (file (sentences.map (·.start)).toArray) t.findings,
          t.failures ++ failuresAt 0 (·.findingsIn sentences text) c.textRules⟩ := by
  have houtcomes : c.textOutcomes sentences text = c.textRules.map (·.findingsIn sentences text) :=
    if_neg fun h => hne (List.isEmpty_iff.mp h)
  unfold checkText foundIn
  rw [houtcomes]
  exact foldlM_take (fun _ => rfl) (fun _ _ _ => (List.foldl_append ..).symm)
    (·.findingsIn sentences text) 0 c.textRules t

/-- What all rules yield on the sentences of a text, none of them ending the run. -/
def reportOn (sentences : List Sentence) (text : Option Text) : Report where
  sentenceCount := sentences.length
  findings := ((c.foundIn sentences text).foldl (file (sentences.map (·.start)).toArray)
    (sentences.map c.foundOn)).flatten
  failures := sentences.flatMap (fun s => failuresAt s.start (·.findings s) c.sentenceRules) ++
    if sentences.isEmpty then [] else failuresAt 0 (·.findingsIn sentences text) c.textRules

/-- A run takes into account what all rules give back, unless a failure ends it. -/
theorem run_eq (sentences : List Sentence) (text : Option Text) :
    c.run sentences text =
      unlessStopped c.settings.onFailure (c.outcomes sentences text) (c.reportOn sentences text) := by
  unfold run
  rw [mapM_checkSentence]
  refine unlessStopped_bind ?_
  -- the rules on the text are the second part, which is empty where there are no sentences
  by_cases hne : sentences = []
  · subst hne
    exact (unlessStopped_nil _).symm
  · rw [if_neg fun h => hne (List.isEmpty_iff.mp h), checkText_eq c hne, unlessStopped_map]
    unfold reportOn
    dsimp only
    rw [List.map_map, List.flatMap_map, if_neg fun h => hne (List.isEmpty_iff.mp h)]
    rfl

end Checker

end Copyedit
