import Copyedit.Error
import Mathlib.Data.List.Forall2

/-!
# Computations that may fail

A computation of two steps returns what its second step returns (`bind_ok_iff`) and fails with the first
failure among them (`bind_error_iff`).  What a longer computation can fail with is read off these two.
What a traversal of a list returns is what its steps return, item by item (`mapM_ok_iff`), and it fails
with what a step fails with (`exists_of_mapM_error`), as a fold does (`exists_of_foldlM_error`); a change of
results commutes with all of that (`map_bind_eq`, `mapM_map_eq`).
-/

namespace Copyedit

variable {ε α β γ : Type}

theorem bind_ok_iff {step : Except ε α} {next : α → Except ε β} {b : β} :
    (step >>= next) = .ok b ↔ ∃ a, step = .ok a ∧ next a = .ok b :=
  match step with
  | .ok a => ⟨fun h => ⟨a, rfl, h⟩, fun ⟨_, ha, h⟩ => Except.ok.inj ha ▸ h⟩
  | .error _ => ⟨nofun, nofun⟩

theorem bind_error_iff {step : Except ε α} {next : α → Except ε β} {e : ε} :
    (step >>= next) = .error e ↔ step = .error e ∨ ∃ a, step = .ok a ∧ next a = .error e := by
  cases step with
  | ok a =>
    constructor
    · exact fun h => .inr ⟨a, rfl, h⟩
    · rintro (h | ⟨_, ha, h⟩)
      · cases h
      · exact Except.ok.inj ha ▸ h
  | error e' =>
    constructor
    · exact fun h => .inl (congrArg Except.error (Except.error.inj h))
    · rintro (h | ⟨_, ha, _⟩)
      · exact congrArg Except.error (Except.error.inj h)
      · cases ha

theorem map_ok_iff {step : Except ε α} {f : α → β} {b : β} :
    (step >>= fun a => pure (f a)) = .ok b ↔ ∃ a, step = .ok a ∧ f a = b := by
  rw [bind_ok_iff]
  exact exists_congr fun a => and_congr_right fun _ => ⟨Except.ok.inj, congrArg Except.ok⟩

/-- What a traversal returns is what its steps return. -/
theorem mapM_ok_iff {f : α → Except ε β} {xs : List α} {ys : List β} :
    xs.mapM f = .ok ys ↔ List.Forall₂ (fun x y => f x = .ok y) xs ys := by
  induction xs generalizing ys with
  | nil =>
    rw [List.mapM_nil, List.forall₂_nil_left_iff]
    exact ⟨fun h => (Except.ok.inj h).symm, fun h => h ▸ rfl⟩
  | cons x rest ih =>
    rw [List.mapM_cons, bind_ok_iff, List.forall₂_cons_left_iff]
    simp only [map_ok_iff, ih]
    constructor
    · rintro ⟨y, hy, ys', hys, rfl⟩
      exact ⟨y, ys', hy, hys, rfl⟩
    · rintro ⟨y, ys', hy, hys, rfl⟩
      exact ⟨y, hy, ys', hys, rfl⟩

theorem exists_of_mem_forall₂ {R : α → β → Prop} {xs : List α} {ys : List β}
    (h : List.Forall₂ R xs ys) {y : β} (hy : y ∈ ys) : ∃ x ∈ xs, R x y := by
  induction h with
  | nil => cases hy
  | @cons x y' xs ys' hx hrest ih =>
    rcases List.mem_cons.mp hy with rfl | hy
    · exact ⟨x, List.mem_cons_self, hx⟩
    · obtain ⟨x', hx', hR⟩ := ih hy
      exact ⟨x', List.mem_cons_of_mem x hx', hR⟩

theorem exists_of_mem_mapM {f : α → Except ε β} {xs : List α} {ys : List β} (h : xs.mapM f = .ok ys)
    {y : β} (hy : y ∈ ys) : ∃ x ∈ xs, f x = .ok y :=
  exists_of_mem_forall₂ (mapM_ok_iff.mp h) hy

theorem map_bind_eq {step : Except ε α} {next : α → Except ε β} {g : β → γ} :
    (step >>= next).map g = step >>= fun a => (next a).map g := by
  cases step <;> rfl

theorem bind_map_eq {step : Except ε α} {g : α → β} {next : β → Except ε γ} :
    (step.map g >>= next) = step >>= fun a => next (g a) := by
  cases step <;> rfl

/-- Two computations that go on in the same way are one that chooses its first step. -/
theorem ite_bind_eq {c : Prop} [Decidable c] {step step' : Except ε α} {next : α → Except ε β} :
    (if c then step >>= next else step' >>= next) = ((if c then step else step') >>= next) := by
  split <;> rfl

/-- Where each step returns something of a kind, the traversal returns something of that kind for each item. -/
theorem exists_mapM_ok {f : α → Except ε β} {R : α → β → Prop} {xs : List α}
    (h : ∀ x ∈ xs, ∃ y, f x = .ok y ∧ R x y) : ∃ ys, xs.mapM f = .ok ys ∧ List.Forall₂ R xs ys := by
  induction xs with
  | nil => exact ⟨[], rfl, .nil⟩
  | cons x rest ih =>
    obtain ⟨⟨y, hy, hR⟩, hrest⟩ := List.forall_mem_cons.mp h
    obtain ⟨ys, hys, hforall⟩ := ih hrest
    refine ⟨y :: ys, ?_, .cons hR hforall⟩
    rw [List.mapM_cons, hy, hys]
    rfl

/-- Changing what each step of a traversal returns changes what it returns item by item. -/
theorem mapM_map_eq (f : α → Except ε β) (g : β → γ) (xs : List α) :
    (xs.mapM fun x => (f x).map g) = (xs.mapM f).map (List.map g) := by
  induction xs with
  | nil => rfl
  | cons x rest ih =>
    rw [List.mapM_cons, List.mapM_cons, ih, bind_map_eq, map_bind_eq]
    refine bind_congr fun y => ?_
    rw [bind_map_eq, map_bind_eq]
    rfl

/-- A traversal fails only where one of its steps does. -/
theorem exists_of_mapM_error {f : α → Except ε β} {xs : List α} {e : ε} (h : xs.mapM f = .error e) :
    ∃ x ∈ xs, f x = .error e := by
  induction xs with
  | nil => cases h
  | cons x rest ih =>
    rw [List.mapM_cons] at h
    rcases bind_error_iff.mp h with hx | ⟨y, -, h⟩
    · exact ⟨x, List.mem_cons_self, hx⟩
    · rcases bind_error_iff.mp h with hrest | ⟨ys, -, h⟩
      · obtain ⟨z, hz, hf⟩ := ih hrest
        exact ⟨z, List.mem_cons_of_mem x hz, hf⟩
      · cases h

/-- A fold fails only where one of its steps does. -/
theorem exists_of_foldlM_error {f : β → α → Except ε β} {xs : List α} {b : β} {e : ε}
    (h : xs.foldlM f b = .error e) : ∃ x ∈ xs, ∃ b', f b' x = .error e := by
  induction xs generalizing b with
  | nil => cases h
  | cons x rest ih =>
    rw [List.foldlM_cons] at h
    rcases bind_error_iff.mp h with hx | ⟨b', -, hrest⟩
    · exact ⟨x, List.mem_cons_self, b, hx⟩
    · obtain ⟨z, hz, hf⟩ := ih hrest
      exact ⟨z, List.mem_cons_of_mem x hz, hf⟩

/-- What all steps give holds of all that is put together from them. -/
theorem forall_mem_of_mapM_flatten {f : α → Except ε (List β)} {xs : List α} {ys : List β}
    {P : β → Prop} (hstep : ∀ x ∈ xs, ∀ part, f x = .ok part → ∀ y ∈ part, P y)
    (h : (xs.mapM f >>= fun parts => pure parts.flatten) = .ok ys) : ∀ y ∈ ys, P y := by
  obtain ⟨parts, hparts, rfl⟩ := map_ok_iff.mp h
  intro y hy
  obtain ⟨part, hpart, hy⟩ := List.mem_flatten.mp hy
  obtain ⟨x, hx, hf⟩ := exists_of_mem_mapM hparts hpart
  exact hstep x hx part hf y hy

/-- The results of a traversal of numbered items that belong to an item, where each item yields what belongs
to it. -/
theorem filter_flatten_of_mapM {f : α × Nat → Except ε (List β)} (key : β → Int)
    {items : List α} {start : Nat} {parts : List (List β)}
    (hkey : ∀ a n part, f (a, n) = .ok part → ∀ b ∈ part, key b = n)
    (h : (items.zipIdx start).mapM f = .ok parts) {i : Nat} {a : α} (ha : items[i]? = some a) :
    f (a, start + i) = .ok (parts.flatten.filter fun b => key b = (start + i : Nat)) := by
  induction items generalizing start parts i with
  | nil => simp at ha
  | cons c rest ih =>
    rw [List.zipIdx_cons, List.mapM_cons] at h
    obtain ⟨part, hpart, h⟩ := bind_ok_iff.mp h
    obtain ⟨others, hothers, rfl⟩ := map_ok_iff.mp h
    have hfirst : ∀ b ∈ part, key b = start := hkey c start part hpart
    rw [List.flatten_cons, List.filter_append]
    cases i with
    | zero =>
      obtain rfl := Option.some.inj ha
      -- nothing of the first item comes from those behind it
      have hlater : ∀ b ∈ others.flatten, key b ≠ start := by
        intro b hb
        obtain ⟨later, hlater, hb⟩ := List.mem_flatten.mp hb
        obtain ⟨⟨a, n⟩, ha, hf⟩ := exists_of_mem_mapM hothers hlater
        have hle := List.le_snd_of_mem_zipIdx ha
        have hn := hkey a n later hf b hb
        simp only at hle
        omega
      rw [Nat.add_zero, hpart, List.filter_eq_self.mpr (by simpa using hfirst),
        List.filter_eq_nil_iff.mpr (by simpa using hlater), List.append_nil]
    | succ i =>
      have hnone : part.filter (fun b => key b = (start + (i + 1) : Nat)) = [] := by
        rw [List.filter_eq_nil_iff]
        intro b hb
        have hn := hfirst b hb
        simp only [decide_eq_true_eq]
        omega
      have hrest := ih hothers ha
      rw [hnone, List.nil_append, show start + (i + 1) = start + 1 + i by omega]
      exact hrest

theorem mapError_ok_iff {δ : Type} {step : Except ε α} {g : ε → δ} {a : α} :
    step.mapError g = .ok a ↔ step = .ok a := by
  cases step with
  | ok b =>
    constructor <;>
      exact fun h => congrArg Except.ok (Except.ok.inj h)
  | error e => exact ⟨nofun, nofun⟩

theorem exists_of_mapError_error {δ : Type} {step : Except ε α} {g : ε → δ} {e : δ}
    (h : step.mapError g = .error e) : ∃ e', step = .error e' ∧ g e' = e := by
  cases step with
  | ok a => cases h
  | error e' => exact ⟨e', rfl, Except.error.inj h⟩

theorem pure_ne_error {a : α} {e : ε} : (pure a : Except ε α) ≠ .error e := nofun

end Copyedit
