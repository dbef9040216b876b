import Copyedit.Proofs.Pattern.Extent
import Copyedit.Proofs.Rules.Extent

/-!
# Under which identifier rules report

A rule reports itself if all its findings carry its identifier (`Rule.ReportsItself`); for a rule from
outside that cannot be taken for granted.  The rules of the library do (`Rule.reportsItself_of_isOwn`).
-/

namespace Copyedit

namespace Inspection

/-- What an inspection finds is reported under an identifier. -/
def ReportsUnder (id : String) : Inspection → Prop
  | sentence run => ∀ s found, run s = .ok found → ∀ f ∈ found, f.rule = id
  | text run => ∀ sentences t found, run sentences t = .ok found → ∀ f ∈ found, f.rule = id

end Inspection

namespace Rule

/-- Whether a rule is one of the library. -/
def isOwn : Rule → Bool
  | foreign _ => false
  | _ => true

/-- Whether a rule reports all that it finds under its own identifier. -/
def ReportsItself (r : Rule) : Prop := r.inspection.ReportsUnder r.id

end Rule

variable {found : List Finding}

/-! ### The rules of the library -/

theorem Pattern.Rule.rule_of_mem_findings {r : Pattern.Rule} {tokens : List Token}
    (h : r.findings tokens = .ok found) : ∀ f ∈ found, f.rule = r.id := by
  intro f hf
  obtain ⟨spans, -, h⟩ := bind_ok_iff.mp h
  obtain ⟨matched, -, hreport⟩ := exists_of_mem_mapM h hf
  obtain ⟨texts, hreports⟩ := reports_of_report hreport
  exact hreports.rule_eq

theorem RepetitionRule.rule_of_mem_findings {r : RepetitionRule} {s : Sentence} (h : r.findings s = .ok found) :
    ∀ f ∈ found, f.rule = RepetitionRule.id := by
  intro f hf
  obtain ⟨i, a, b, -, -, -, hpair⟩ := (findingsFrom_isReport h).pair f hf
  exact hpair.rule_eq

theorem Spacing.rule_of_mem_findings {s : Sentence} (h : Spacing.findings s = .ok found) :
    ∀ f ∈ found, f.rule = Spacing.id := by
  intro f hf
  obtain ⟨run, -, hreport⟩ := exists_of_mem_mapM h hf
  obtain ⟨stops, -, rfl⟩ := map_ok_iff.mp hreport
  rfl

theorem LongSentence.rule_of_mem_findings {l : WordLimit} {s : Sentence}
    (h : LongSentence.findings l s = .ok found) : ∀ f ∈ found, f.rule = LongSentence.id := by
  unfold LongSentence.findings at h
  obtain ⟨areWords, -, h⟩ := bind_ok_iff.mp h
  dsimp only at h
  split at h
  · split at h
    · obtain ⟨stop, -, rfl⟩ := map_ok_iff.mp h
      exact List.forall_mem_singleton.mpr rfl
    · obtain rfl := Except.ok.inj h
      exact List.forall_mem_nil _
  · obtain rfl := Except.ok.inj h
    exact List.forall_mem_nil _

theorem LongParagraph.rule_of_mem_findings {l : WordLimit} {sentences : List Sentence}
    {text : Option Text} (h : LongParagraph.findings l sentences text = .ok found) :
    ∀ f ∈ found, f.rule = LongParagraph.id := by
  refine forall_mem_of_mapM_flatten (fun paragraph _ part hpart => ?_) h
  unfold paragraphFindings at hpart
  obtain ⟨words, -, hpart⟩ := bind_ok_iff.mp hpart
  split at hpart
  · obtain rfl := Except.ok.inj hpart
    exact List.forall_mem_nil _
  · split at hpart
    · obtain ⟨stop, -, rfl⟩ := map_ok_iff.mp hpart
      exact List.forall_mem_singleton.mpr rfl
    · obtain rfl := Except.ok.inj hpart
      exact List.forall_mem_nil _

/-- The rules of the library report under their own identifiers. -/
theorem Rule.reportsItself_of_isOwn {r : Rule} (hown : r.isOwn = true) : r.ReportsItself := by
  cases r with
  | pattern r => exact fun _ _ => Pattern.Rule.rule_of_mem_findings
  | replacement r => exact fun _ _ => ReplacementRule.rule_of_mem_findings
  | spelling r => exact fun _ _ => SpellingRule.rule_of_mem_findings
  | repetition r => exact fun _ _ => RepetitionRule.rule_of_mem_findings
  | spacing => exact fun _ _ => Spacing.rule_of_mem_findings
  | longSentence l => exact fun _ _ => LongSentence.rule_of_mem_findings
  | longParagraph l => exact fun _ _ _ => LongParagraph.rule_of_mem_findings
  | foreign r => cases hown

end Copyedit
