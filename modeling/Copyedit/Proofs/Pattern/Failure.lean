import Copyedit.Pattern.Rule
import Copyedit.Proofs.Outcome

/-!
# Failures of tests

What can stop a pattern from being matched.  Most failures of a test count as "not accepted"
(`isTestFailure`).  Within the tokens, the only failure that is left is a case setting that chooses
neither of the two expressions of a demanded text: the key error of that setting
(`Rule.accepts_error`).  The settings of a rule by which a text may be tested are `Rule.caseSettings`.
-/

namespace Copyedit.Pattern

/-! ### Case settings -/

/-- Whether a test by this case setting never stops a match: the setting is a truth value or the number
that stands for one, or it cannot be looked up at all, which counts as "not accepted". -/
def ChoosesCase (setting : Value) : Prop :=
  setting.canBeKey = true → setting.isTruth true = true ∨ setting.isTruth false = true

theorem choosesCase_bool (b : Bool) : ChoosesCase (.bool b) := by
  intro _
  cases b with
  | true => exact .inl rfl
  | false => exact .inr rfl

/-- The setting by which a constraint tests a text, if it demands one. -/
def Constraint.caseSettings (c : Constraint) (default : Value) : List Value :=
  if c.wording.isSome then [c.caseSetting default] else []

/-- The settings by which an element and its exceptions test texts. -/
def Element.caseSettings (e : Element) (default : Value) : List Value :=
  e.constraint.caseSettings default ++
    e.exceptions.flatMap fun x => x.constraint.caseSettings (e.constraint.caseSetting default)

/-- The settings by which the elements of a rule test texts. -/
def Rule.caseSettings (r : Rule) : List Value :=
  r.elements.flatMap fun e => e.caseSettings r.caseSensitive

/-- The failure of a test by one of these case settings. -/
def IsCaseFailure (settings : List Value) (err : Error) : Prop :=
  ∃ v ∈ settings, ¬ ChoosesCase v ∧ err = .key v.quoted

theorem IsCaseFailure.mono {vs ws : List Value} {err : Error} (h : IsCaseFailure vs err)
    (hsub : vs ⊆ ws) : IsCaseFailure ws err := by
  obtain ⟨v, hv, hbad, herr⟩ := h
  exact ⟨v, hsub hv, hbad, herr⟩

/-! ### Constraints -/

theorem Wording.choose_error {w : Wording} {v : Value} {err : Error} (h : w.choose v = .error err) :
    isTestFailure err = true ∨ (¬ ChoosesCase v ∧ err = .key v.quoted) := by
  unfold Wording.choose at h
  split at h
  · obtain rfl := Except.error.inj h
    exact .inl rfl
  · rename_i hkey
    split at h
    · cases h
    · rename_i htrue
      split at h
      · cases h
      · rename_i hfalse
        obtain rfl := Except.error.inj h
        refine .inr ⟨fun hv => ?_, rfl⟩
        rcases hv (by simpa using hkey) with h | h
        · exact htrue h
        · exact hfalse h

theorem Constraint.hasWording_error {c : Constraint} {t : Token} {default : Value} {err : Error}
    (h : c.hasWording t (c.caseSetting default) = .error err) :
    isTestFailure err = true ∨ IsCaseFailure (c.caseSettings default) err := by
  unfold Constraint.hasWording at h
  cases hw : c.wording with
  | none => simp [hw] at h
  | some w =>
    simp only [hw] at h
    rcases bind_error_iff.mp h with h | ⟨r, _, h⟩
    · rcases w.choose_error h with h | ⟨hbad, herr⟩
      · exact .inl h
      · refine .inr ⟨c.caseSetting default, ?_, hbad, herr⟩
        simp [Constraint.caseSettings, hw]
    · cases ht : t.text with
      | none =>
        simp only [ht] at h
        obtain rfl := Except.error.inj h
        exact .inl rfl
      | some text =>
        simp only [ht] at h
        exact absurd h pure_ne_error

theorem TagForm.test_error {f : TagForm} {t : Token} {err : Error} (h : f.test t = .error err) :
    isTestFailure err = true := by
  cases f with
  | ofText r => cases h
  | ofBytes =>
    simp only [TagForm.test] at h
    split at h
    · cases h
    · obtain rfl := Except.error.inj h
      rfl

theorem Constraint.hasBase_error {c : Constraint} {t : Token} {setting : Value} {err : Error}
    (h : c.hasBase t setting = .error err) : isTestFailure err = true := by
  unfold Constraint.hasBase at h
  split at h
  · cases h
  · split at h <;> cases h
  · split at h
    · cases h
    · obtain rfl := Except.error.inj h
      rfl

theorem Constraint.holds_error {c : Constraint} {t : Token} {default : Value} {err : Error}
    (h : c.holds t (c.caseSetting default) = .error err) :
    isTestFailure err = true ∨ IsCaseFailure (c.caseSettings default) err := by
  unfold Constraint.holds at h
  rcases bind_error_iff.mp h with h | ⟨b, _, h⟩
  · exact c.hasWording_error h
  · split at h
    · rcases bind_error_iff.mp h with h | ⟨hasTag, _, h⟩
      · cases ht : c.tag with
        | none => simp [ht] at h
        | some f =>
          simp only [ht, Option.map_some, Option.getD_some] at h
          exact .inl (f.test_error h)
      · split at h
        · exact .inl (c.hasBase_error h)
        · exact absurd h pure_ne_error
    · exact absurd h pure_ne_error

theorem Constraint.test_error {c : Constraint} {t : Token} {default : Value} {err : Error}
    (h : c.test t default = .error err) :
    isTestFailure err = true ∨ IsCaseFailure (c.caseSettings default) err := by
  rcases bind_error_iff.mp h with h | ⟨b, _, h⟩
  · exact c.holds_error h
  · exact absurd h pure_ne_error

/-! ### Elements -/

theorem Exception.vetoes_error {x : Exception} {tokens : List Token} {index : Int} {default : Value}
    {err : Error} (h : x.vetoes tokens index default = .error err) :
    isTestFailure err = true ∨ IsCaseFailure (x.constraint.caseSettings default) err := by
  unfold Exception.vetoes at h
  dsimp only at h
  split at h
  · cases h
  · split at h
    · exact Constraint.test_error h
    · cases h

theorem Element.isVetoed_error {tokens : List Token} {index : Int} {setting : Value} {err : Error} :
    ∀ {xs : List Exception}, Element.isVetoed xs tokens index setting = .error err →
      isTestFailure err = true ∨
        IsCaseFailure (xs.flatMap fun x => x.constraint.caseSettings setting) err := by
  intro xs
  induction xs with
  | nil => intro h; cases h
  | cons x xs ih =>
    intro h
    unfold Element.isVetoed at h
    rcases bind_error_iff.mp h with h | ⟨b, _, h⟩
    · exact (x.vetoes_error h).imp_right fun h => h.mono (by simp)
    · split at h
      · cases h
      · exact (ih h).imp_right fun h => h.mono (by simp)

section Positions

variable {α : Type} {fault : RangeFault} {items : List α} {index : Int}

/-- A position without an item lies outside the items, counted from either end. -/
theorem itemAt_error {err : Error} (h : itemAt fault items index = .error err) :
    err = .range fault ∧ (index < -items.length ∨ items.length ≤ index) := by
  unfold itemAt at h
  dsimp only at h
  generalize hplace : (if index < 0 then index + (items.length : Int) else index) = place at h
  split at h
  · obtain rfl := Except.error.inj h
    refine ⟨rfl, ?_⟩
    split at hplace <;> omega
  · split at h
    · cases h
    · rename_i hnone
      obtain rfl := Except.error.inj h
      rw [List.getElem?_eq_none_iff] at hnone
      refine ⟨rfl, ?_⟩
      split at hplace <;> omega

theorem bounds_of_itemAt {x : α} (h : itemAt fault items index = .ok x) :
    -items.length ≤ index ∧ index < items.length := by
  unfold itemAt at h
  dsimp only at h
  generalize hplace : (if index < 0 then index + (items.length : Int) else index) = place at h
  split at h
  · cases h
  · split at h
    · rename_i hsome
      obtain ⟨hlt, _⟩ := List.getElem?_eq_some_iff.mp hsome
      split at hplace <;> omega
    · cases h

theorem getElem?_of_itemAt {x : α} (hindex : 0 ≤ index) (h : itemAt fault items index = .ok x) :
    items[index.toNat]? = some x := by
  unfold itemAt at h
  dsimp only at h
  rw [if_neg (Int.not_lt.mpr hindex), if_neg (Int.not_lt.mpr hindex)] at h
  split at h
  · rename_i hget
    rw [hget, Except.ok.inj h]
  · cases h

end Positions

theorem Element.accepts_error {e : Element} {tokens : List Token} {index : Int} {default : Value}
    {err : Error} (h : e.accepts tokens index default = .error err) :
    (err = .range .tokens ∧ (index < -tokens.length ∨ tokens.length ≤ index)) ∨
      isTestFailure err = true ∨ IsCaseFailure (e.caseSettings default) err := by
  unfold Element.accepts at h
  rcases bind_error_iff.mp h with h | ⟨t, _, h⟩
  · exact .inl (itemAt_error h)
  · refine .inr ?_
    rcases bind_error_iff.mp h with h | ⟨b, _, h⟩
    · exact (Constraint.test_error h).imp_right fun h => h.mono (by simp [Element.caseSettings])
    · split at h
      · rcases bind_error_iff.mp h with h | ⟨b, _, h⟩
        · exact (Element.isVetoed_error h).imp_right fun h => h.mono (by simp [Element.caseSettings])
        · cases h
      · cases h

/-! ### Rules -/

/-- A test that a rule makes at a position fails only outside the tokens, or by a case setting. -/
theorem Rule.accepts_error {r : Rule} {tokens : List Token} {e : Element} {p : Int} {err : Error}
    (he : e ∈ r.elements) (h : r.accepts tokens e p = .error err) :
    (err = .range .tokens ∧ (p < -tokens.length ∨ tokens.length ≤ p)) ∨
      IsCaseFailure r.caseSettings err := by
  unfold Rule.accepts tolerant at h
  split at h
  · cases h
  · rename_i err' haccepts
    split at h
    · cases h
    · rename_i hnot
      obtain rfl := Except.error.inj h
      -- what counts as "not accepted" has been answered with "no" already
      rcases Element.accepts_error haccepts with h | h | h
      · exact .inl h
      · exact absurd h hnot
      · refine .inr (h.mono fun v hv => ?_)
        exact List.mem_flatMap.mpr ⟨e, he, hv⟩

/-- A token that an element accepts is one of the tokens. -/
theorem Rule.bounds_of_accepts {r : Rule} {tokens : List Token} {e : Element} {p : Int}
    (h : r.accepts tokens e p = .ok true) : -tokens.length ≤ p ∧ p < tokens.length := by
  unfold Rule.accepts tolerant at h
  split at h
  · rename_i b haccepts
    obtain ⟨t, ht, _⟩ := bind_ok_iff.mp haccepts
    exact bounds_of_itemAt ht
  · split at h <;> cases h

end Copyedit.Pattern
