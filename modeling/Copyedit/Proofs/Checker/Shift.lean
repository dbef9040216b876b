import Copyedit.Proofs.Checker.Run
import Copyedit.Proofs.Rules.Shift

/-!
# Sentences checked elsewhere in a document

Where a sentence stands makes no difference to what a checker finds in it, if nothing in its profile looks at
positions (`Profile.IgnoresPositions`): at another position it has the same tokens, moved
(`analyzeSentence_shift`), each rule gives back the same, moved, or fails with the same
error, and so the whole of what rules yield on the sentence is moved (`checkSentence_shift`).
-/

namespace Copyedit

variable {d : Int}

/-- What a rule gives back, `d` characters further on; a failure is the same failure. -/
def Outcome.shift (d : Int) (o : Outcome) : Outcome := o.map (List.map (Finding.shift d))

/-- The failure `d` characters further on. -/
def RuleFailure.shift (d : Int) (f : RuleFailure) : RuleFailure :=
  { f with position := f.position + d }

/-- What rules yield on a sentence, `d` characters further on. -/
def Tally.shift (d : Int) (t : Tally (List Finding)) : Tally (List Finding) where
  findings := t.findings.map (Finding.shift d)
  failures := t.failures.map (RuleFailure.shift d)

/-! ### Profiles -/

/-- A tagger or a choice among readings does not look at where the tokens stand. -/
def IgnoresPositions (g : List Token → List Token) : Prop :=
  ∀ d tokens, g (tokens.map (Token.shift d)) = (g tokens).map (Token.shift d)

/-- Nothing by which a profile makes tokens of a sentence looks at where the sentence stands. -/
structure Profile.IgnoresPositions (p : Profile) : Prop where
  /-- Elsewhere the tokenizer makes the same tokens. -/
  tokenizer : ∀ text x d, p.tokenize text (x + d) = (p.tokenize text x).map (Token.shift d)
  /-- The tagger adds the same readings. -/
  tagger : ∀ g, p.tagger = some g → Copyedit.IgnoresPositions g
  /-- The disambiguator makes the same choice. -/
  disambiguator : ∀ g, p.disambiguator = some g → Copyedit.IgnoresPositions g

/-- What ignores positions does so also where it may be missing. -/
theorem IgnoresPositions.map_getD {g? : Option (List Token → List Token)}
    (h : ∀ g, g? = some g → IgnoresPositions g) (tokens : List Token) :
    (g?.map fun g => g (tokens.map (Token.shift d))).getD (tokens.map (Token.shift d)) =
      ((g?.map fun g => g tokens).getD tokens).map (Token.shift d) := by
  cases g? with
  | none => rfl
  | some g => exact h g rfl d tokens

/-! ### Outcomes -/

theorem Outcome.failure?_shift (o : Outcome) : (o.shift d).failure? = o.failure? := by
  cases o <;> rfl

theorem Outcome.found_shift (o : Outcome) : (o.shift d).found = o.found.map (Finding.shift d) := by
  cases o <;> rfl

theorem firstFailure?_shift (outcomes : List Outcome) :
    firstFailure? (outcomes.map (Outcome.shift d)) = firstFailure? outcomes := by
  unfold firstFailure?
  rw [List.findSome?_map]
  exact congrArg (fun f => List.findSome? f outcomes) (funext Outcome.failure?_shift)

theorem unlessStopped_shift {α β : Type} (mode : OnFailure) (outcomes : List Outcome) (g : α → β)
    (a : α) : unlessStopped mode (outcomes.map (Outcome.shift d)) (g a) =
      (unlessStopped mode outcomes a).map g := by
  unfold unlessStopped
  rw [firstFailure?_shift]
  split
  · cases firstFailure? outcomes <;> rfl
  · rfl

namespace Checker

variable {c : Checker}

/-! ### Analysis -/

/-- Elsewhere a sentence has the same tokens with the same readings. -/
theorem analyzeSentence_shift (hprofile : c.profile.IgnoresPositions) (text : Text) (p d : Int) :
    c.analyzeSentence text (p + d) = (c.analyzeSentence text p).shift d := by
  unfold analyzeSentence Sentence.shift
  dsimp only
  rw [hprofile.tokenizer, IgnoresPositions.map_getD hprofile.tagger,
    IgnoresPositions.map_getD hprofile.disambiguator]

/-! ### Rules on sentences -/

theorem outcomesOn_shift (hown : ∀ r ∈ c.sentenceRules, r.isOwn = true) (s : Sentence) :
    c.outcomesOn (s.shift d) = (c.outcomesOn s).map (Outcome.shift d) := by
  unfold outcomesOn
  rw [List.map_map]
  refine List.map_congr_left fun r hr => ?_
  have hlevel := (List.mem_filter.mp hr).2
  exact Rule.findings_shift (hown r hr) ((Bool.not_eq_true' _).mp hlevel) s

theorem failuresAt_shift (hown : ∀ r ∈ c.sentenceRules, r.isOwn = true) (s : Sentence) :
    failuresAt (s.shift d).start (·.findings (s.shift d)) c.sentenceRules =
      (failuresAt s.start (·.findings s) c.sentenceRules).map (RuleFailure.shift d) := by
  unfold failuresAt
  rw [List.map_filterMap]
  refine List.filterMap_congr fun r hr => ?_
  have hlevel := (List.mem_filter.mp hr).2
  have hr : r.findings (s.shift d) = Outcome.shift d (r.findings s) :=
    Rule.findings_shift (hown r hr) ((Bool.not_eq_true' _).mp hlevel) s
  dsimp only
  rw [hr, Outcome.failure?_shift, Option.map_map]
  rfl

theorem tallyOn_shift (hown : ∀ r ∈ c.sentenceRules, r.isOwn = true) (s : Sentence) :
    c.tallyOn (s.shift d) = (c.tallyOn s).shift d := by
  unfold tallyOn Tally.shift
  rw [failuresAt_shift hown]
  unfold foundOn
  rw [outcomesOn_shift hown, List.flatMap_map, List.map_flatMap]
  simp only [Outcome.found_shift]

/-! ### Main statement -/

/-- **Moved sentences.** Let the rules on sentences of a checker be rules of the library, and let the profile
not look at positions.  Between the same sentence at one position
and at another, each rule finds the same one after the other, at positions that differ by the distance, or
fails with the same error; and so does the checker with all its rules. -/
theorem checkSentence_shift (c : Checker) (hprofile : c.profile.IgnoresPositions)
    (hown : ∀ r ∈ c.sentenceRules, r.isOwn = true) (text : Text) (p q : Int) :
    (∀ r ∈ c.sentenceRules, r.findings (c.analyzeSentence text q) =
      (r.findings (c.analyzeSentence text p)).map (List.map (Finding.shift (q - p)))) ∧
    c.checkSentence (c.analyzeSentence text q) =
      (c.checkSentence (c.analyzeSentence text p)).map (Tally.shift (q - p)) := by
  have hmoved : c.analyzeSentence text q = (c.analyzeSentence text p).shift (q - p) := by
    rw [← analyzeSentence_shift hprofile]
    congr 1
    omega
  rw [hmoved]
  constructor
  · intro r hr
    have hlevel := (List.mem_filter.mp hr).2
    exact Rule.findings_shift (hown r hr) ((Bool.not_eq_true' _).mp hlevel) _
  · rw [checkSentence_eq, checkSentence_eq, outcomesOn_shift hown, tallyOn_shift hown]
    exact unlessStopped_shift _ _ _ _

/-- A checker with a small lexicon that takes the first reading of each token, with a rule that fails on the
word "cat". -/
def firstReader : Checker where
  profile := { Profile.generic with
    tagger := some (Lexicon.ofEntries [("sat".toList, [⟨some "sit".toList, some "VB".toList⟩])]).tag
    disambiguator := some fun tokens => tokens.map fun k => k.withReadings (k.readings.take 1) }
  settings := .standard
  rules := [.repetition (.make []), .spacing, .longSentence ⟨6, by decide⟩,
    .replacement {
      id := "CAT", description := "", message := ['\x7d'], shortMessage := "", caseSensitive := true
      locale := .english, table := [("cat".toList, ["dog".toList])]
      forms := [("cat".toList, ["dog".toList])] }]

/-- A sentence with something for each of its rules. -/
def catSentence : Text := "The the  cat sat up and ran".toList

theorem checkSentence_firstReader :
    firstReader.profile.IgnoresPositions ∧
      (∀ r ∈ firstReader.sentenceRules, r.isOwn = true) ∧
      ∃ t t', firstReader.checkSentence (firstReader.analyzeSentence catSentence 2) = .ok t ∧
        firstReader.checkSentence (firstReader.analyzeSentence catSentence 12) = .ok t' ∧
        t' = t.shift 10 ∧ t'.findings.map (fun f => (f.start, f.stop)) = [(12, 19), (19, 21), (12, 39)] ∧
        t'.failures.map (·.position) = [12] := by
  have hprofile : firstReader.profile.IgnoresPositions := by
    refine ⟨Text.tokens_shift, fun g hg d tokens => ?_, fun g hg d tokens => ?_⟩
    · obtain rfl := Option.some.inj hg
      exact Lexicon.tag_shift _ tokens
    · obtain rfl := Option.some.inj hg
      dsimp only
      rw [List.map_map, List.map_map]
      rfl
  obtain ⟨-, hmoved⟩ := checkSentence_shift firstReader hprofile (by decide) catSentence 2 12
  have hthere := firstReader.checkSentence_eq (firstReader.analyzeSentence catSentence 12)
  have hhere := firstReader.checkSentence_eq (firstReader.analyzeSentence catSentence 2)
  rw [unlessStopped_of_ne (by decide)] at hthere hhere
  refine ⟨hprofile, by decide, _, _, hhere, hthere, ?_, ?_, ?_⟩
  · rw [hthere, hhere] at hmoved
    exact Except.ok.inj hmoved
  · decide +kernel
  · decide +kernel

end Checker

end Copyedit
