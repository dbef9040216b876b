import Copyedit.Proofs.Checker.Report
import Copyedit.Proofs.Rules.Identity

/-!
# Leaving rules out

A rule that is left out takes its findings with it and changes nothing else, whatever the other rules do.
Rules that report themselves are told apart by what they report, so on each sentence, and on the text, the
findings of the rules that are left are those of all rules without those of the others
(`flatMap_found_filter`).  Filing goes by positions alone, so that carries over to the report as a whole
(`findings_reportOn_leavingOut`).  The main statement `check_disabled` puts that together for two checkers
made with settings that differ in nothing else.
-/

namespace Copyedit

/-- Whether a finding is of a rule that is not left out. -/
def Finding.isKept (disabled : List String) (f : Finding) : Bool := !disabled.contains f.rule

/-- If rules report under their identifiers, those that are left yield what all do, without the findings
of the others. -/
theorem flatMap_found_filter {rules : List Rule} {call : Rule → Outcome} (disabled : List String)
    (h : ∀ r ∈ rules, ∀ f ∈ (call r).found, f.rule = r.id) :
    ((rules.filter fun r => !disabled.contains r.id).map call).flatMap Outcome.found =
      ((rules.map call).flatMap Outcome.found).filter (Finding.isKept disabled) := by
  induction rules with
  | nil => rfl
  | cons r rest ih =>
    obtain ⟨hr, hrest⟩ := List.forall_mem_cons.mp h
    rw [List.map_cons, List.flatMap_cons, List.filter_append, ← ih hrest]
    have hkept : ∀ f ∈ (call r).found, Finding.isKept disabled f = !disabled.contains r.id := by
      intro f hf
      unfold Finding.isKept
      rw [hr f hf]
    cases hid : disabled.contains r.id with
    | true =>
      -- the rule is left out, and so are all its findings
      have hnone : (call r).found.filter (Finding.isKept disabled) = [] := by
        refine List.filter_eq_nil_iff.mpr fun f hf => ?_
        rw [hkept f hf, hid]
        exact Bool.false_ne_true
      rw [List.filter_cons_of_neg (by rw [hid]; exact Bool.false_ne_true), hnone, List.nil_append]
    | false =>
      have hall : (call r).found.filter (Finding.isKept disabled) = (call r).found := by
        refine List.filter_eq_self.mpr fun f hf => ?_
        rw [hkept f hf, hid]
        rfl
      rw [List.filter_cons_of_pos (by rw [hid]; rfl), List.map_cons, List.flatMap_cons, hall]

namespace Rule

variable {r : Rule}

theorem ReportsItself.rule_of_mem_findings (h : r.ReportsItself) (s : Sentence) :
    ∀ f ∈ Outcome.found (r.findings s), f.rule = r.id := by
  intro f hf
  obtain ⟨found, hfound, hf⟩ := Outcome.mem_found.mp hf
  unfold findings at hfound
  unfold ReportsItself Inspection.ReportsUnder at h
  cases hi : r.inspection with
  | sentence run =>
    rw [hi] at h hfound
    exact h s found hfound f hf
  | text run =>
    rw [hi] at h hfound
    exact h [s] none found hfound f hf

theorem ReportsItself.rule_of_mem_findingsIn (h : r.ReportsItself) (sentences : List Sentence)
    (text : Option Text) : ∀ f ∈ Outcome.found (r.findingsIn sentences text), f.rule = r.id := by
  intro f hf
  obtain ⟨found, hfound, hf⟩ := Outcome.mem_found.mp hf
  unfold findingsIn at hfound
  unfold ReportsItself Inspection.ReportsUnder at h
  cases hi : r.inspection with
  | sentence run =>
    rw [hi] at h hfound
    exact forall_mem_of_mapM_flatten (fun s _ part hpart => h s part hpart) hfound f hf
  | text run =>
    rw [hi] at h hfound
    exact h sentences text found hfound f hf

end Rule

namespace Checker

/-! ### One checker and the other -/

/-- The checker that leaves out further rules. -/
def leavingOut (disabled : List String) (c : Checker) : Checker where
  profile := c.profile
  settings := { c.settings with disabled }
  rules := c.rules.filter fun r => !disabled.contains r.id

/-- Which rules are left out makes no other difference to a checker, nor to whether there is one. -/
theorem make_disabled (p : Profile) (s : Settings) (disabled : List String) :
    make p { s with disabled } = (make p { s with disabled := [] }).map (leavingOut disabled) := by
  have hall : allRules p { s with disabled } = allRules p { s with disabled := [] } := rfl
  unfold make
  rw [hall]
  cases allRules p { s with disabled := [] } with
  | error e => rfl
  | ok rules =>
    have hkeep : rules.filter (fun r => !([] : List String).contains r.id) = rules :=
      List.filter_eq_self.mpr fun r _ => rfl
    change Except.ok _ = Except.ok (leavingOut disabled ⟨p, _, rules.filter _⟩)
    unfold leavingOut
    dsimp only
    rw [hkeep]

/-- The rules of a checker are those of its profile, and the one on spelling. -/
theorem reportsItself_of_mem_rules {p : Profile} {s : Settings} {c : Checker} (hc : make p s = .ok c)
    (hrules : ∀ r ∈ p.rules, r.isOwn = false → r.ReportsItself) : ∀ r ∈ c.rules, r.ReportsItself := by
  obtain ⟨rules, hall, rfl⟩ := map_ok_iff.mp hc
  intro r hr
  replace hr := (List.mem_filter.mp hr).1
  by_cases hown : r.isOwn = true
  · exact Rule.reportsItself_of_isOwn hown
  · refine hrules r ?_ (Bool.eq_false_iff.mpr hown)
    unfold allRules at hall
    split at hall
    · obtain ⟨spelling, -, rfl⟩ := map_ok_iff.mp hall
      rcases List.mem_append.mp hr with hr | hr
      · exact hr
      · rw [List.mem_singleton.mp hr] at hown
        exact absurd rfl hown
    · exact Except.ok.inj hall ▸ hr

variable {c : Checker} {disabled : List String}

theorem sentenceRules_leavingOut :
    (c.leavingOut disabled).sentenceRules =
      c.sentenceRules.filter fun r => !disabled.contains r.id := by
  unfold sentenceRules leavingOut
  rw [List.filter_filter, List.filter_filter]
  exact List.filter_congr fun r _ => Bool.and_comm _ _

theorem textRules_leavingOut :
    (c.leavingOut disabled).textRules = c.textRules.filter fun r => !disabled.contains r.id := by
  unfold textRules leavingOut
  rw [List.filter_filter, List.filter_filter]
  exact List.filter_congr fun r _ => Bool.and_comm _ _

theorem foundOn_leavingOut (hrules : ∀ r ∈ c.rules, r.ReportsItself) (s : Sentence) :
    (c.leavingOut disabled).foundOn s = (c.foundOn s).filter (Finding.isKept disabled) := by
  unfold foundOn outcomesOn
  rw [sentenceRules_leavingOut]
  refine flatMap_found_filter disabled fun r hr => ?_
  exact (hrules r (List.mem_filter.mp hr).1).rule_of_mem_findings s

theorem foundIn_leavingOut (hrules : ∀ r ∈ c.rules, r.ReportsItself) (sentences : List Sentence)
    (text : Option Text) :
    (c.leavingOut disabled).foundIn sentences text =
      (c.foundIn sentences text).filter (Finding.isKept disabled) := by
  unfold foundIn textOutcomes
  rw [textRules_leavingOut]
  split
  · rfl
  · refine flatMap_found_filter disabled fun r hr => ?_
    exact (hrules r (List.mem_filter.mp hr).1).rule_of_mem_findingsIn sentences text

/-- A report of the rules that are left is one of all rules, without the findings of the others. -/
theorem findings_reportOn_leavingOut (hrules : ∀ r ∈ c.rules, r.ReportsItself)
    (sentences : List Sentence) (text : Option Text) :
    ((c.leavingOut disabled).reportOn sentences text).findings =
      (c.reportOn sentences text).findings.filter (Finding.isKept disabled) := by
  rw [findings_reportOn, findings_reportOn, List.filter_flatMap]
  refine List.flatMap_congr fun e _ => ?_
  -- where a finding is filed depends on its position, not on the others
  rw [foundOn_leavingOut hrules, foundIn_leavingOut hrules, List.filter_append, List.filter_filter,
    List.filter_filter]
  exact congrArg _ (List.filter_congr fun f _ => Bool.and_comm _ _)

/-! ### Main statement -/

/-- **Disabled rules.** Let all rules of a profile report under their own identifiers, as those of the
library do.  Of two checkers whose settings differ only in the rules that are left out, none and some, the
second one is there if the first one is, and finds in a text what the first one does, in the same order,
without the findings of the rules that are left out; whichever rules fail, as long as failures do not end
the run. -/
theorem check_disabled (p : Profile) (s : Settings) (disabled : List String)
    (hmode : s.onFailure ≠ .raise) (hrules : ∀ r ∈ p.rules, r.isOwn = false → r.ReportsItself)
    {c : Checker} (hc : make p { s with disabled := [] } = .ok c) (t : Text) :
    ∃ c' r r', make p { s with disabled } = .ok c' ∧
      c.check (some t) = .ok r ∧ c'.check (some t) = .ok r' ∧
      r'.findings = r.findings.filter fun f => !disabled.contains f.rule := by
  have hsettings : c.settings.onFailure = s.onFailure := by
    obtain ⟨rules, -, rfl⟩ := map_ok_iff.mp hc
    rfl
  have hother : make p { s with disabled } = .ok (c.leavingOut disabled) := by
    rw [make_disabled, hc]
    rfl
  have hitself := reportsItself_of_mem_rules hc hrules
  refine ⟨c.leavingOut disabled, c.reportOn (c.analyzed t) (some t),
    (c.leavingOut disabled).reportOn (c.analyzed t) (some t), hother, ?_, ?_, ?_⟩
  · rw [check_eq]
    exact unlessStopped_of_ne (hsettings ▸ hmode) _
  · rw [check_eq]
    exact unlessStopped_of_ne (hsettings ▸ hmode) _
  · exact findings_reportOn_leavingOut hitself (c.analyzed t) (some t)

/-- A profile with a dictionary, a rule from outside on texts, and one on sentences that fails. -/
def mixedProfile : Profile := { Profile.generic with
  rules := [
    .foreign ⟨"TextLevelRule", "AT", "", .text fun _ _ => .ok [findingAt 4]⟩,
    .foreign ⟨"Rule", "S1", "", .sentence fun _ => .error (.kind (.noLength "NoneType"))⟩,
    .repetition (.make []), .spacing]
  dictionaries := [⟨0, .words (.ofEntries [⟨"the".toList, []⟩])⟩] }

theorem check_mixedProfile :
    Settings.standard.onFailure ≠ .raise ∧
      (∀ r ∈ mixedProfile.rules, r.isOwn = false → r.ReportsItself) ∧
      ∃ c c' r r', make mixedProfile { Settings.standard with disabled := [] } = .ok c ∧
        make mixedProfile { Settings.standard with disabled := ["SPELLER_RULE", "WHITESPACE_RULE"] } =
          .ok c' ∧
        c.check (some "The the  caat.".toList) = .ok r ∧ c'.check (some "The the  caat.".toList) = .ok r' ∧
        r.findings.map (·.rule) = ["WORD_REPEAT_RULE", "WHITESPACE_RULE", "SPELLER_RULE", "AT"] ∧
        r'.findings.map (·.rule) = ["WORD_REPEAT_RULE", "AT"] := by
  have hrules : ∀ r ∈ mixedProfile.rules, r.isOwn = false → r.ReportsItself := by
    intro r hr hown
    simp only [mixedProfile, List.mem_cons, List.not_mem_nil, or_false] at hr
    rcases hr with rfl | rfl | rfl | rfl
    · intro _ _ found hfound f hf
      obtain rfl := Except.ok.inj hfound
      rw [List.mem_singleton.mp hf]
      rfl
    · exact fun _ _ h => nomatch h
    · cases hown
    · cases hown
  obtain ⟨c, hc⟩ : ∃ c, make mixedProfile { Settings.standard with disabled := [] } = .ok c := ⟨_, rfl⟩
  obtain ⟨c', r, r', hc', hr, hr', hkept⟩ := check_disabled mixedProfile .standard
    ["SPELLER_RULE", "WHITESPACE_RULE"] (by decide) hrules hc "The the  caat.".toList
  have hfound : r.findings.map (·.rule) =
      ["WORD_REPEAT_RULE", "WHITESPACE_RULE", "SPELLER_RULE", "AT"] := by
    rw [check_eq] at hr
    obtain rfl := eq_of_unlessStopped_eq_ok hr
    obtain rfl := Except.ok.inj hc
    decide +kernel
  refine ⟨by decide, hrules, c, c', r, r', hc, hc', hr, hr', hfound, ?_⟩
  rw [hkept]
  have hmap := congrArg (List.filter fun id => !(["SPELLER_RULE", "WHITESPACE_RULE"].contains id)) hfound
  rw [List.filter_map] at hmap
  exact hmap

end Checker

end Copyedit
