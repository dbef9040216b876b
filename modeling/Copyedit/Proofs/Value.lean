import Copyedit.Proofs.Outcome
import Mathlib.Data.List.Perm.Basic

/-!
# Values in a rule file

What stands under a key stands among the entries (`Value.exists_of_get?`), and a number is an integer or has
a fraction part (`Value.integer_or_real`).  Sorting keys loses none (`Value.sorted_perm`), and it fails only
where two of them have no order (`Value.sorted_error`).  A value is written unless it holds too long an
integer or too many values inside of each other; lists around a value are written up to that limit
(`Value.writeFault?_nested`).
-/

namespace Copyedit.Value

/-! ### Entries -/

theorem exists_of_get? {entries : List (Value × Value)} {key : String} {v : Value}
    (h : get? entries key = some v) : ∃ k, (k, v) ∈ entries := by
  unfold get? at h
  obtain ⟨⟨k, w⟩, hfind, rfl⟩ := Option.map_eq_some_iff.mp h
  exact ⟨k, List.mem_of_find?_eq_some hfind⟩

theorem sameKey_text_iff {v : Value} {s : String} : v.sameKey (.text s) = true ↔ v = .text s := by
  cases v with
  | text t => simp [sameKey]
  | _ => simp [sameKey, integer?, number?]

/-- Other keys stay when a key is taken out. -/
theorem get?_without {entries : List (Value × Value)} {key other : String} (hne : other ≠ key) :
    get? (without entries key) other = get? entries other := by
  have hkept : ∀ e : Value × Value, e.1.sameKey (.text other) = true → (!e.1.sameKey (.text key)) = true := by
    intro e hother
    have hkey : ¬ e.1.sameKey (.text key) = true := by
      rw [sameKey_text_iff, sameKey_text_iff.mp hother]
      exact fun heq => hne (text.inj heq)
    simpa using hkey
  unfold get? without
  rw [List.find?_filter]
  simp only [and_iff_right_of_imp (hkept _), Bool.decide_eq_true]

/-- What stands under a key, or else the default for it. -/
theorem getD_get?_cases (entries : List (Value × Value)) (key : String) (default : Value) :
    (get? entries key).getD default = default ∨
      get? entries key = some ((get? entries key).getD default) := by
  cases get? entries key with
  | none => exact .inl rfl
  | some v => exact .inr rfl

/-! ### Numbers -/

theorem atMost?_of_integers {a b : Value} {m n : Int} (ha : a.integer? = some m)
    (hb : b.integer? = some n) : a.atMost? b = some (decide (m ≤ n)) := by
  unfold atMost?
  cases a <;> cases ha <;> cases b <;> cases hb <;> rfl

/-- A number is an integer, or one with a fraction part. -/
theorem integer_or_real {v : Value} {x : Float} (h : v.number? = some x) :
    (∃ n, v.integer? = some n) ∨ v = .real x := by
  cases v with
  | bool b => exact .inl ⟨_, rfl⟩
  | int n => exact .inl ⟨n, rfl⟩
  | real y => exact .inr (congrArg real (Option.some.inj h))
  | _ => cases h

/-! ### Sorting -/

section Sorting

variable {v a b : Value} {vs ws : List Value}

theorem insertSorted_perm (h : insertSorted v vs = .ok ws) : ws.Perm (v :: vs) := by
  induction vs generalizing ws with
  | nil =>
    obtain rfl := Except.ok.inj h
    exact List.Perm.refl _
  | cons w rest ih =>
    unfold insertSorted at h
    split at h
    · cases h
    · obtain rfl := Except.ok.inj h
      exact List.Perm.refl _
    · obtain ⟨vs', hinsert, rfl⟩ := map_ok_iff.mp h
      exact ((ih hinsert).cons w).trans (List.Perm.swap v w rest)

theorem sorted_perm (h : sorted vs = .ok ws) : ws.Perm vs := by
  induction vs generalizing ws with
  | nil =>
    obtain rfl := Except.ok.inj h
    exact List.Perm.refl _
  | cons v rest ih =>
    obtain ⟨sorted, hsorted, hinsert⟩ := bind_ok_iff.mp h
    exact (insertSorted_perm hinsert).trans ((ih hsorted).cons v)

theorem insertSorted_error (h : insertSorted v vs = .error (a, b)) :
    a = v ∧ b ∈ vs ∧ precedes? a b = none := by
  induction vs with
  | nil => cases h
  | cons w rest ih =>
    unfold insertSorted at h
    split at h
    · rename_i hnone
      obtain ⟨rfl, rfl⟩ := Prod.mk.inj (Except.error.inj h)
      exact ⟨rfl, List.mem_cons_self, hnone⟩
    · cases h
    · rcases bind_error_iff.mp h with hinsert | ⟨vs', -, hdone⟩
      · obtain ⟨rfl, hb, hnone⟩ := ih hinsert
        exact ⟨rfl, List.mem_cons_of_mem w hb, hnone⟩
      · cases hdone

/-- Values are sorted unless two of them have no order. -/
theorem sorted_error (h : sorted vs = .error (a, b)) : a ∈ vs ∧ b ∈ vs ∧ precedes? a b = none := by
  induction vs with
  | nil => cases h
  | cons v rest ih =>
    rcases bind_error_iff.mp h with hrest | ⟨vs', hsorted, hinsert⟩
    · obtain ⟨ha, hb, hnone⟩ := ih hrest
      exact ⟨List.mem_cons_of_mem v ha, List.mem_cons_of_mem v hb, hnone⟩
    · obtain ⟨rfl, hb, hnone⟩ := insertSorted_error hinsert
      exact ⟨List.mem_cons_self, List.mem_cons_of_mem _ ((sorted_perm hsorted).mem_iff.mp hb), hnone⟩

end Sorting

/-! ### Writing -/

theorem writeFault?_one : (int 1).writeFault? = none := by
  have hshort : Decimal.isWritable 1 = true := by
    unfold Decimal.isWritable
    rw [decide_eq_true_eq]
    -- the power is kept from being worked out
    generalize hn : Decimal.digitLimit = n
    have hne : n ≠ 0 := by rw [← hn]; decide
    exact Nat.one_lt_pow hne (by decide)
  unfold writeFault? writeFaultIn
  rw [hshort]
  rfl

/-- Lists around a value, one inside the other. -/
def nested (v : Value) : Nat → Value
  | 0 => v
  | n + 1 => list [nested v n]

theorem writeFaultIn_nested (around : List Nat) (room n : Nat) :
    writeFaultIn around room (nested null n) = if n < room then none else some .tooDeep := by
  -- each list takes one of the places that are left
  induction n generalizing room with
  | zero =>
    unfold nested writeFaultIn
    split <;> split <;> first | rfl | omega
  | succ n ih =>
    unfold nested writeFaultIn
    split
    · rw [if_neg (by omega)]
    · unfold itemsFaultIn itemsFaultIn
      rw [ih, Option.or_none]
      exact if_congr (by omega) rfl rfl

/-- Lists inside of each other are written as long as they are fewer than the limit. -/
theorem writeFault?_nested (n : Nat) :
    (nested null n).writeFault? = if n < depthLimit then none else some .tooDeep :=
  writeFaultIn_nested [] depthLimit n

/-! ### What stands in a mapping -/

/-- A value is a key of a mapping, or stands under one. -/
def StandsIn (entries : List (Value × Value)) (v : Value) : Prop := ∃ e ∈ entries, v = e.1 ∨ v = e.2

section Mappings

variable {entries : List (Value × Value)} {v : Value} {key : String}

theorem standsIn_of_key (h : v ∈ entries.map (·.1)) : StandsIn entries v := by
  obtain ⟨e, he, rfl⟩ := List.mem_map.mp h
  exact ⟨e, he, .inl rfl⟩

theorem standsIn_of_get? (h : get? entries key = some v) : StandsIn entries v := by
  obtain ⟨k, hk⟩ := exists_of_get? h
  exact ⟨(k, v), hk, .inr rfl⟩

/-- What is not written stands in the mapping if the default is written. -/
theorem standsIn_of_getD {default : Value} {f : WriteFault} (hdefault : default.writeFault? = none)
    (h : ((get? entries key).getD default).writeFault? = some f) :
    StandsIn entries ((get? entries key).getD default) := by
  rcases getD_get?_cases entries key default with heq | hget
  · rw [heq, hdefault] at h
    cases h
  · exact standsIn_of_get? hget

end Mappings

end Copyedit.Value
