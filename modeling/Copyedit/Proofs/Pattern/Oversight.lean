import Copyedit.Pattern.RuleFile
import Copyedit.Proofs.Outcome
import Copyedit.Proofs.Value

/-!
# What reading a pattern overlooks

A definition that is refused ends reading with a defect (`Error.IsDefect`).  Some definitions end it with
another error, because what they hold is used before it is looked at.  Those are listed here for each part
of a pattern: keys without an order, and values that are not written as their integers are too long or as
they are nested too deeply (`MappingOversight`); expressions that fail for another reason than their notation
(`IsBeyond`), tags that are no expressions (`TagOversight`), scopes that are no keys (`ExceptionOversight`),
and bounds that are no numbers (`ElementOversight`).

Each function that reads is shown to end with a value, a defect, or an oversight of what it reads.
-/

namespace Copyedit

/-- Whether an error says that a definition is refused. -/
def Error.IsDefect (e : Error) : Prop := ∃ d, e = .defect d

theorem Error.isDefect_defect (d : Defect) : (Error.defect d).IsDefect := ⟨d, rfl⟩

theorem Error.not_isDefect_kind (f : KindFault) : ¬ (Error.kind f).IsDefect := by
  rintro ⟨d, h⟩
  cases h

theorem Error.not_isDefect_value (f : ValueFault) : ¬ (Error.value f).IsDefect := by
  rintro ⟨d, h⟩
  cases h

theorem Error.not_isDefect_ofWriteFault (f : Value.WriteFault) : ¬ (Error.ofWriteFault f).IsDefect := by
  rintro ⟨d, h⟩
  cases f <;> cases h

/-- A defect is reported as such unless it cites what is not written. -/
theorem Error.ofDefect_cases (d : Defect) :
    (Error.ofDefect d).IsDefect ∨
      ∃ v ∈ d.cited, ∃ f, v.writeFault? = some f ∧ Error.ofDefect d = .ofWriteFault f := by
  unfold Error.ofDefect
  split
  · rename_i f hfind
    obtain ⟨v, hv, hf⟩ := List.exists_of_findSome?_eq_some hfind
    exact .inr ⟨v, hv, f, hf, rfl⟩
  · exact .inl ⟨d, rfl⟩

theorem Value.text?_ok {v : Value} {s : String} (h : v.text? = .ok s) : s = v.shown := by
  unfold Value.text? at h
  split at h
  · cases h
  · exact (Except.ok.inj h).symm

theorem Value.text?_error {v : Value} {e : Error} (h : v.text? = .error e) :
    ∃ f, v.writeFault? = some f ∧ e = .ofWriteFault f := by
  unfold Value.text? at h
  split at h
  · rename_i f hf
    exact ⟨f, hf, (Except.error.inj h).symm⟩
  · cases h

namespace Pattern

variable {e : Error}

/-! ### Mappings -/

/-- The keys of a mapping that are none of the known ones. -/
def unknownKeys (known : List String) (entries : List (Value × Value)) : List Value :=
  (entries.map (·.1)).filter fun k => !known.any fun name => k.sameKey (.text name)

/-- What is overlooked in a mapping. -/
inductive MappingOversight (known : List String) (entries : List (Value × Value)) : Error → Prop
  /-- Unknown keys are sorted to be reported, but two of them have no order. -/
  | keys {a b : Value} (ha : a ∈ unknownKeys known entries) (hb : b ∈ unknownKeys known entries)
    (h : a.precedes? b = none) : MappingOversight known entries (.kind (.ofUnordered a b))
  /-- A value is to be written, but it has too long an integer in it or is nested too deeply. -/
  | unwritten {v : Value} {f : Value.WriteFault} (hv : Value.StandsIn entries v)
    (h : v.writeFault? = some f) : MappingOversight known entries (.ofWriteFault f)

theorem MappingOversight.not_isDefect {known : List String} {entries : List (Value × Value)}
    (h : MappingOversight known entries e) : ¬ e.IsDefect := by
  cases h with
  | keys => exact Error.not_isDefect_kind _
  | unwritten => exact Error.not_isDefect_ofWriteFault _

theorem entriesOf_error {place : Option Place} {v : Value} (h : entriesOf place v = .error e) :
    e.IsDefect := by
  unfold entriesOf at h
  split at h
  · cases h
  · obtain rfl := Except.error.inj h
    exact Error.isDefect_defect _

theorem bare_of_entriesOf {place : Option Place} {v : Value} {entries : List (Value × Value)}
    (h : entriesOf place v = .ok entries) : v.bare = .map entries := by
  unfold entriesOf at h
  split at h
  · rename_i hmap
    rw [hmap, Except.ok.inj h]
  · cases h

section Mapping

variable {known : List String} {entries : List (Value × Value)}

/-- A defect that cites only values which are written or stand in the mapping. -/
theorem MappingOversight.of_defect {d : Defect}
    (hcited : ∀ v ∈ d.cited, ∀ f, v.writeFault? = some f → Value.StandsIn entries v) :
    (Error.ofDefect d).IsDefect ∨ MappingOversight known entries (Error.ofDefect d) := by
  rcases Error.ofDefect_cases d with hd | ⟨v, hv, f, hf, heq⟩
  · exact .inl hd
  · rw [heq]
    exact .inr (.unwritten (hcited v hv f hf) hf)

theorem checkKeys_error {place : Place} (h : checkKeys place known entries = .error e) :
    e.IsDefect ∨ MappingOversight known entries e := by
  unfold checkKeys at h
  dsimp only at h
  split at h
  · cases h
  · split at h
    · rename_i keys hsorted
      obtain rfl := Except.error.inj h
      refine MappingOversight.of_defect fun v hv _ _ => ?_
      -- the keys that are cited are among those of the mapping
      have hunknown := (Value.sorted_perm hsorted).mem_iff.mp hv
      exact Value.standsIn_of_key (List.mem_of_mem_filter hunknown)
    · rename_i a b hsorted
      obtain rfl := Except.error.inj h
      obtain ⟨ha, hb, hnone⟩ := Value.sorted_error hsorted
      exact .inr (.keys ha hb hnone)

/-- What is taken as a text fails only if it is not written. -/
theorem textUnder_error {key : String}
    (h : (Value.get? entries key).mapM Value.text? = .error e) : MappingOversight known entries e := by
  cases hget : Value.get? entries key with
  | none =>
    rw [hget] at h
    cases h
  | some v =>
    rw [hget] at h
    rcases bind_error_iff.mp h with htext | ⟨t, -, hdone⟩
    · obtain ⟨f, hf, rfl⟩ := Value.text?_error htext
      exact .unwritten (Value.standsIn_of_get? hget) hf
    · cases hdone

theorem demandOf_error (h : demandOf entries = .error e) : MappingOversight known entries e := by
  rcases bind_error_iff.mp h with htoken | ⟨t, -, hdone⟩
  · exact textUnder_error htoken
  · cases hdone

end Mapping

/-! ### Expressions -/

/-- Something is wrong with an expression that is no matter of its notation: a bound out of reach or too long,
groups nested too deeply, or flags that clash. -/
inductive BeyondNotation : Regex.Cause → Prop
  /-- A bound out of reach. -/
  | boundTooLarge : BeyondNotation .boundTooLarge
  /-- A bound of too many digits. -/
  | boundTooLong : BeyondNotation .boundTooLong
  /-- Groups nested too deeply. -/
  | tooDeep : BeyondNotation .tooDeep
  /-- Flags that clash. -/
  | typesClash (other : String) : BeyondNotation (.typesClash other)

/-- An expression does not compile, but not because of its notation. -/
def IsBeyond {α : Type} (compiled : Except Regex.Fault α) (source : Text) (e : Error) : Prop :=
  ∃ f, compiled = .error f ∧ BeyondNotation f.cause ∧ e = Error.ofFault f source

theorem IsBeyond.not_isDefect {α : Type} {compiled : Except Regex.Fault α} {source : Text}
    (h : IsBeyond compiled source e) : ¬ e.IsDefect := by
  obtain ⟨f, -, -, rfl⟩ := h
  rintro ⟨d, hd⟩
  unfold Error.ofFault at hd
  split at hd <;> cases hd

theorem ofFault_cases (f : Regex.Fault) (source : Text) :
    BeyondNotation f.cause ∨ Error.ofFault f source = .expression f source := by
  unfold Error.ofFault
  split
  case h_5 => exact .inr rfl
  all_goals
    rename_i hcause
    rw [hcause]
    exact .inl (by constructor)

/-- An expression that does not compile is refused, unless its notation is not to blame. -/
theorem refusal_error {α : Type} {compiled : Except Regex.Fault α} {what : String} {written : Value}
    {source : Text} {reason : Regex.Fault → String}
    (h : (compiled.mapError fun f => refusal what written source f (reason f)) = .error e) :
    e.IsDefect ∨ IsBeyond compiled source e := by
  obtain ⟨f, hcompiled, rfl⟩ := exists_of_mapError_error h
  unfold refusal
  rcases ofFault_cases f source with hcause | hexpression
  · split
    · exact .inl (Error.isDefect_defect _)
    · exact .inr ⟨f, hcompiled, hcause, rfl⟩
  · rw [hexpression]
    exact .inl (Error.isDefect_defect _)

theorem Wording.make_error {source : Text} {isExpression : Bool}
    (h : Wording.make source isExpression = .error e) :
    e.IsDefect ∨
      (isExpression = true ∧ ∃ ignoreCase, IsBeyond (Regex.compile source ignoreCase) source e) := by
  unfold Wording.make at h
  split at h
  · rename_i hexpression
    rcases bind_error_iff.mp h with hexact | ⟨exact', -, h⟩
    · exact (refusal_error hexact).imp_right fun hbeyond => ⟨hexpression, _, hbeyond⟩
    · rcases bind_error_iff.mp h with hfolded | ⟨folded, -, hdone⟩
      · exact (refusal_error hfolded).imp_right fun hbeyond => ⟨hexpression, _, hbeyond⟩
      · cases hdone
  · cases h

/-- Whether a tag is one that can be compiled, or none. -/
def isTagSource : Value → Bool
  | .null | .text _ | .bytes _ => true
  | _ => false

/-- What is overlooked in a tag. -/
inductive TagOversight : Value → Error → Prop
  /-- A text that does not compile, but not because of its notation. -/
  | text {s : String} {e : Error} (h : IsBeyond (Regex.compile s.toList) s.toList e) :
    TagOversight (.text s) e
  /-- Bytes that do not compile, but not because of their notation. -/
  | bytes {bs : List Nat} {e : Error} (h : IsBeyond (Regex.checkBytes bs) (bs.map Char.ofNat) e) :
    TagOversight (.bytes bs) e
  /-- Something that is no expression. -/
  | kind {v : Value} (h : isTagSource v = false) :
    TagOversight v (.kind (if v.canBeKey then .notExpression else .notKey v.kindName))

theorem TagOversight.not_isDefect {v : Value} (h : TagOversight v e) : ¬ e.IsDefect := by
  cases h with
  | text h => exact h.not_isDefect
  | bytes h => exact h.not_isDefect
  | kind => exact Error.not_isDefect_kind _

theorem TagForm.make_error {v : Value} (h : TagForm.make v = .error e) :
    e.IsDefect ∨ TagOversight v e := by
  unfold TagForm.make at h
  split at h
  · cases h
  · rcases bind_error_iff.mp h with hcompile | ⟨r, -, hdone⟩
    · exact (refusal_error hcompile).imp_right .text
    · cases hdone
  · rcases bind_error_iff.mp h with hcompile | ⟨r, -, hdone⟩
    · exact (refusal_error hcompile).imp_right .bytes
    · cases hdone
  · rename_i hnull htext hbytes
    obtain rfl := Except.error.inj h
    refine .inr (.kind ?_)
    unfold isTagSource
    split <;> simp_all

/-! ### Constraints and exceptions -/

/-- What is overlooked in a constraint. -/
inductive ConstraintOversight (d : Demand) : Error → Prop
  /-- The text. -/
  | token {source : Text} {ignoreCase : Bool} {e : Error} (htoken : d.token = some source)
    (hexpression : d.isExpression.truthy = true) (h : IsBeyond (Regex.compile source ignoreCase) source e) :
    ConstraintOversight d e
  /-- The tag. -/
  | tag {e : Error} (h : TagOversight d.tag e) : ConstraintOversight d e

theorem ConstraintOversight.not_isDefect {d : Demand} (h : ConstraintOversight d e) : ¬ e.IsDefect := by
  cases h with
  | token _ _ h => exact h.not_isDefect
  | tag h => exact h.not_isDefect

theorem Constraint.make_error {what : String} {d : Demand} (h : Constraint.make what d = .error e) :
    e.IsDefect ∨ ConstraintOversight d e := by
  have htag {wording : Option Wording}
      (h : (TagForm.make d.tag >>= fun tag => pure (⟨d, wording, tag⟩ : Constraint)) = .error e) :
      e.IsDefect ∨ ConstraintOversight d e := by
    rcases bind_error_iff.mp h with htag | ⟨tag, -, hdone⟩
    · exact (TagForm.make_error htag).imp_right .tag
    · cases hdone
  unfold Constraint.make at h
  dsimp only at h
  split at h
  · obtain rfl := Except.error.inj h
    exact .inl (Error.isDefect_defect _)
  · -- an empty text demands nothing, so only the tag is compiled
    split at h
    · exact htag h
    · rename_i hgiven
      rcases bind_error_iff.mp h with hwording | ⟨w, -, h⟩
      · refine (Wording.make_error hwording).imp_right fun ⟨hexpression, ignoreCase, hbeyond⟩ => ?_
        cases htoken : d.token with
        | none => simp [htoken] at hgiven
        | some source =>
          rw [htoken, Option.getD_some] at hbeyond
          exact .token htoken hexpression hbeyond
      · exact htag h

/-- What is overlooked in an exception. -/
inductive ExceptionOversight (v : Value) : Error → Prop
  /-- Its keys, or what is written of it. -/
  | mapping {entries : List (Value × Value)} {e : Error} (hv : v.bare = .map entries)
    (h : MappingOversight exceptionKeys entries e) : ExceptionOversight v e
  /-- Its constraint. -/
  | constraint {entries : List (Value × Value)} {d : Demand} {e : Error}
    (hv : v.bare = .map entries) (hd : demandOf entries = .ok d) (h : ConstraintOversight d e) :
    ExceptionOversight v e
  /-- A scope that is looked up, but is no key. -/
  | scope {entries : List (Value × Value)} {scope : Value} (hv : v.bare = .map entries)
    (hscope : Value.get? entries "scope" = some scope) (h : scope.canBeKey = false) :
    ExceptionOversight v (.kind (.notKey scope.kindName))

theorem ExceptionOversight.not_isDefect {v : Value} (h : ExceptionOversight v e) : ¬ e.IsDefect := by
  cases h with
  | mapping _ h => exact h.not_isDefect
  | constraint _ _ h => exact h.not_isDefect
  | scope => exact Error.not_isDefect_kind _

theorem Scope.ofValue_error {v : Value} (h : Scope.ofValue v = .error e) :
    e = .ofDefect (.unknownScope v) ∨ (v.canBeKey = false ∧ e = .kind (.notKey v.kindName)) := by
  unfold Scope.ofValue at h
  split at h
  · rename_i hkey
    exact .inr ⟨by simpa using hkey, (Except.error.inj h).symm⟩
  · split at h
    · cases h
    · exact .inl (Except.error.inj h).symm

theorem Exception.ofValue_error {place : Place} {v : Value} (h : Exception.ofValue place v = .error e) :
    e.IsDefect ∨ ExceptionOversight v e := by
  unfold Exception.ofValue at h
  rcases bind_error_iff.mp h with hentries | ⟨entries, hentries, h⟩
  · exact .inl (entriesOf_error hentries)
  have hv := bare_of_entriesOf hentries
  rcases bind_error_iff.mp h with hkeys | ⟨_, -, h⟩
  · exact (checkKeys_error hkeys).imp_right (.mapping hv)
  rcases bind_error_iff.mp h with hdemand | ⟨d, hd, h⟩
  · exact .inr (.mapping hv (demandOf_error hdemand))
  unfold Exception.make at h
  rcases bind_error_iff.mp h with hscope | ⟨scope, -, h⟩
  · rcases Scope.ofValue_error hscope with rfl | ⟨hkey, rfl⟩
    · refine (MappingOversight.of_defect fun w hw f hf => ?_).imp_right (.mapping hv)
      obtain rfl := List.mem_singleton.mp hw
      exact Value.standsIn_of_getD rfl hf
    · rcases Value.getD_get?_cases entries "scope" (.text "current") with heq | hget
      · rw [heq] at hkey
        cases hkey
      · exact .inr (.scope hv hget hkey)
  · rcases bind_error_iff.mp h with hconstraint | ⟨c, -, hdone⟩
    · exact (Constraint.make_error hconstraint).imp_right (.constraint hv hd)
    · cases hdone

/-! ### Elements -/

/-- What is overlooked in a bound. -/
inductive BoundOversight (bound : Value) : Error → Prop
  /-- It is compared, but is no number. -/
  | kind (h : bound.number? = none) :
    BoundOversight bound (.kind (.notOrdered "<" bound.longKindName "int"))
  /-- It is to be written, but has too many digits or is nested too deeply. -/
  | unwritten {f : Value.WriteFault} (h : bound.writeFault? = some f) :
    BoundOversight bound (.ofWriteFault f)

theorem BoundOversight.not_isDefect {bound : Value} (h : BoundOversight bound e) : ¬ e.IsDefect := by
  cases h with
  | kind => exact Error.not_isDefect_kind _
  | unwritten => exact Error.not_isDefect_ofWriteFault _

/-- What is overlooked in an element. -/
inductive ElementOversight (v : Value) : Error → Prop
  /-- Its keys, or what is written of it. -/
  | mapping {entries : List (Value × Value)} {e : Error} (hv : v.bare = .map entries)
    (h : MappingOversight elementKeys (Value.without entries "exceptions") e) : ElementOversight v e
  /-- Its constraint. -/
  | constraint {entries : List (Value × Value)} {d : Demand} {e : Error}
    (hv : v.bare = .map entries) (hd : demandOf (Value.without entries "exceptions") = .ok d)
    (h : ConstraintOversight d e) : ElementOversight v e
  /-- A bound. -/
  | bound {entries : List (Value × Value)} {key : String} {bound : Value} {e : Error}
    (hv : v.bare = .map entries) (hkey : key = "min" ∨ key = "max")
    (hbound : Value.get? (Value.without entries "exceptions") key = some bound)
    (h : BoundOversight bound e) : ElementOversight v e
  /-- One of its exceptions. -/
  | exception {entries : List (Value × Value)} {exceptions : List Value} {x : Value} {e : Error}
    (hv : v.bare = .map entries)
    (hexceptions : listOrNone (Value.get? entries "exceptions") = some exceptions)
    (hx : x ∈ exceptions) (h : ExceptionOversight x e) : ElementOversight v e

theorem ElementOversight.not_isDefect {v : Value} (h : ElementOversight v e) : ¬ e.IsDefect := by
  cases h with
  | mapping _ h => exact h.not_isDefect
  | constraint _ _ h => exact h.not_isDefect
  | bound _ _ _ h => exact h.not_isDefect
  | exception _ _ _ h => exact h.not_isDefect

theorem below_error {bound : Value} {n : Int} (h : below bound n = .error e) :
    BoundOversight bound e := by
  unfold below at h
  split at h
  · cases h
  · rename_i hnone
    obtain rfl := Except.error.inj h
    exact .kind hnone

/-- A defect that cites only bounds. -/
theorem BoundOversight.of_defect {d : Defect} {bounds : List Value} (hcited : d.cited ⊆ bounds) :
    (Error.ofDefect d).IsDefect ∨ ∃ bound ∈ bounds, BoundOversight bound (Error.ofDefect d) := by
  rcases Error.ofDefect_cases d with hd | ⟨v, hv, f, hf, heq⟩
  · exact .inl hd
  · rw [heq]
    exact .inr ⟨v, hcited hv, .unwritten hf⟩

theorem Element.make_error {d : Demand} {least most : Value} {exceptions : List Exception}
    (h : Element.make d least most exceptions = .error e) :
    e.IsDefect ∨ (∃ bound ∈ [least, most], BoundOversight bound e) ∨ ConstraintOversight d e := by
  unfold Element.make at h
  dsimp only at h
  -- a bound is compared, and if the comparison says so, refused with a defect that cites it
  rcases bind_error_iff.mp h with hbelow | ⟨_, -, h⟩
  · exact .inr (.inl ⟨least, by simp, below_error hbelow⟩)
  split at h
  · obtain rfl := Except.error.inj h
    exact (BoundOversight.of_defect (by simp [Defect.cited])).imp_right .inl
  rcases bind_error_iff.mp h with hbelow | ⟨_, -, h⟩
  · exact .inr (.inl ⟨most, by simp, below_error hbelow⟩)
  split at h
  · obtain rfl := Except.error.inj h
    exact (BoundOversight.of_defect (by simp [Defect.cited])).imp_right .inl
  split at h
  · obtain rfl := Except.error.inj h
    exact (BoundOversight.of_defect (by simp [Defect.cited])).imp_right .inl
  rcases bind_error_iff.mp h with hconstraint | ⟨c, -, hdone⟩
  · exact (Constraint.make_error hconstraint).imp_right .inr
  · cases hdone

/-- A bound that is not given is overlooked in nothing. -/
theorem BoundOversight.of_getD {entries : List (Value × Value)} {key : String}
    (h : BoundOversight ((Value.get? entries key).getD (.int 1)) e) :
    ∃ bound, Value.get? entries key = some bound ∧ BoundOversight bound e := by
  rcases Value.getD_get?_cases entries key (.int 1) with heq | hget
  · rw [heq] at h
    cases h with
    | kind hnumber => cases hnumber
    | unwritten hf =>
      rw [Value.writeFault?_one] at hf
      cases hf
  · exact ⟨_, hget, h⟩

theorem Element.ofValue_error {place : Place} {v : Value} (h : Element.ofValue place v = .error e) :
    e.IsDefect ∨ ElementOversight v e := by
  unfold Element.ofValue at h
  rcases bind_error_iff.mp h with hentries | ⟨entries, hentries, h⟩
  · exact .inl (entriesOf_error hentries)
  have hv := bare_of_entriesOf hentries
  split at h
  · obtain rfl := Except.error.inj h
    exact .inl (Error.isDefect_defect _)
  rename_i exceptions hexceptions
  dsimp only at h
  rcases bind_error_iff.mp h with hkeys | ⟨_, -, h⟩
  · exact (checkKeys_error hkeys).imp_right (.mapping hv)
  rcases bind_error_iff.mp h with hdemand | ⟨d, hd, h⟩
  · exact .inr (.mapping hv (demandOf_error hdemand))
  rcases bind_error_iff.mp h with hall | ⟨made, -, h⟩
  · obtain ⟨⟨x, i⟩, hx, hmake⟩ := exists_of_mapM_error hall
    have hmem : x ∈ exceptions := List.fst_mem_of_mem_zipIdx hx
    exact (Exception.ofValue_error hmake).imp_right (.exception hv hexceptions hmem)
  rcases Element.make_error h with hdefect | ⟨bound, hmem, hbound⟩ | hconstraint
  · exact .inl hdefect
  · rcases List.mem_pair.mp hmem with rfl | rfl
    · obtain ⟨bound, hget, hbound⟩ := hbound.of_getD
      exact .inr (.bound hv (.inl rfl) hget hbound)
    · obtain ⟨bound, hget, hbound⟩ := hbound.of_getD
      exact .inr (.bound hv (.inr rfl) hget hbound)
  · exact .inr (.constraint hv hd hconstraint)

end Pattern

end Copyedit
