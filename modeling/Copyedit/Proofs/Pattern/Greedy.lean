import Copyedit.Proofs.Pattern.Failure
import Mathlib.Data.List.Forall2

/-!
# What a match takes

`Parses accepts es p spans` says that the elements `es` can take `spans` from the position `p` on: each
takes a run that fits its bounds, of tokens that it accepts, and starts where the one before it stops.
A match is such a parse in which no run could be longer (`spansFrom_some`, with `IsLongest`), and a rule
matches at a position iff the parse found there is not empty (`Rule.attempt_spans`).

An attempt fails only outside the tokens or by a case setting (`Rule.attempt_error`).
-/

namespace Copyedit.Pattern

open Rule (Span Attempt)

/-! ### Bounds -/

/-- Whether a run of `n` tokens is within the bounds: it is long enough, and no token was one too
many. -/
def Element.Fits (e : Element) (n : Nat) : Prop :=
  e.isEnough n = true ∧ ∀ k < n, e.allowsMore k = true

/-- A run that is longer than one that is long enough is long enough. -/
theorem Element.isEnough_mono {e : Element} {m n : Nat} (h : e.isEnough m = true) (hmn : m ≤ n) :
    e.isEnough n = true := by
  unfold Element.isEnough at h ⊢
  cases hl : leastOf e.least with
  | none => rw [hl] at h; cases h
  | some least =>
    simp only [hl, decide_eq_true_eq] at h ⊢
    omega

theorem Element.isEnough_iff {e : Element} {a : Int} (ha : e.least = .int a) (n : Nat) :
    e.isEnough n = true ↔ a ≤ n := by
  simp only [Element.isEnough, ha, leastOf, Value.integer?, decide_eq_true_eq]
  omega

theorem Element.allowsMore_iff {e : Element} {b : Int} (hb : e.most = .int b) (n : Nat) :
    e.allowsMore n = true ↔ b = -1 ∨ (n : Int) < b := by
  simp only [Element.allowsMore, hb, unbounded, Value.sameKey, leastOf, Value.integer?, Bool.or_eq_true,
    beq_iff_eq, decide_eq_true_eq]
  omega

/-- With integers for bounds, a count fits iff it lies between them; `-1` sets no upper bound. -/
theorem Element.fits_iff {e : Element} {a b : Int} (ha : e.least = .int a) (hb : e.most = .int b)
    (n : Nat) : e.Fits n ↔ a ≤ n ∧ (b = -1 ∨ n ≤ b.toNat) := by
  unfold Element.Fits
  rw [Element.isEnough_iff ha]
  refine and_congr_right fun _ => ?_
  simp only [Element.allowsMore_iff hb]
  constructor
  · intro h
    rcases Nat.eq_zero_or_pos n with rfl | hn
    · exact .inr (Nat.zero_le _)
    · have := h (n - 1) (by omega)
      omega
  · intro h k hk
    omega

/-! ### Parses -/

section Parse

variable (accepts : Element → Int → Except Error Bool) (size : Nat)

/-- The elements can take these spans from a position on. -/
inductive Parses : List Element → Int → List Span → Prop where
  /-- No elements take no spans. -/
  | nil (p : Int) : Parses [] p []
  /-- An element takes a run of tokens that it accepts, and the others start after it. -/
  | cons {e : Element} {es : List Element} {p : Int} {n : Nat} {spans : List Span} :
      e.Fits n → (∀ k < n, accepts e (p + (k : Nat)) = .ok true) → Parses es (p + n) spans →
      Parses (e :: es) p (⟨p, p + n⟩ :: spans)

/-- Whether an element could take no token after its span: it may take no more, there is none, or it
does not accept the next one. -/
def IsLongest (e : Element) (s : Span) : Prop :=
  e.allowsMore (s.stop - s.first).toNat = false ∨ (size : Int) ≤ s.stop ∨ accepts e s.stop = .ok false

/-- The position after the last span, or the start if there is none. -/
def endOf (start : Int) (spans : List Span) : Int := ((spans.getLast?).map (·.stop)).getD start

theorem endOf_nil (p : Int) : endOf p [] = p := rfl

theorem endOf_cons (p : Int) (s : Span) (spans : List Span) :
    endOf p (s :: spans) = endOf s.stop spans := by
  cases spans with
  | nil => rfl
  | cons t spans => simp [endOf, List.getLast?_cons]

variable {accepts size}

/-- There is one span for each element. -/
theorem Parses.length_eq {es : List Element} {p : Int} {spans : List Span}
    (h : Parses accepts es p spans) : spans.length = es.length := by
  induction h with
  | nil p => rfl
  | cons _ _ _ ih => rw [List.length_cons, List.length_cons, ih]

theorem Parses.le_endOf {es : List Element} {p : Int} {spans : List Span}
    (h : Parses accepts es p spans) : p ≤ endOf p spans := by
  induction h with
  | nil p => exact Int.le_refl p
  | cons _ _ _ ih => rw [endOf_cons]; dsimp only; omega

/-- The spans of a parse lie within it. -/
theorem Parses.bounds {es : List Element} {p : Int} {spans : List Span}
    (h : Parses accepts es p spans) :
    ∀ s ∈ spans, p ≤ s.first ∧ s.first ≤ s.stop ∧ s.stop ≤ endOf p spans := by
  induction h with
  | nil => simp
  | @cons e es p n spans _ _ hrest ih =>
    have hend := hrest.le_endOf
    rw [endOf_cons, List.forall_mem_cons]
    dsimp only
    refine ⟨by omega, fun s hs => ?_⟩
    obtain ⟨hfirst, hle, hstop⟩ := ih s hs
    omega

/-- A position inside a parse lies in the span of an element that accepts it. -/
theorem Parses.exists_span {es : List Element} {p q : Int} {spans : List Span}
    (h : Parses accepts es p spans) (hle : p ≤ q) (hlt : q < endOf p spans) :
    ∃ e ∈ es, ∃ s ∈ spans, accepts e q = .ok true ∧ s.first ≤ q ∧ q < s.stop := by
  induction h with
  | nil =>
    rw [endOf_nil] at hlt
    omega
  | @cons e es p n spans _ haccepts _ ih =>
    rw [endOf_cons] at hlt
    rcases Int.lt_or_le q (p + n) with hin | hout
    · have hq := haccepts (q - p).toNat (by omega)
      rw [show p + ((q - p).toNat : Int) = q by omega] at hq
      exact ⟨e, List.mem_cons_self, _, List.mem_cons_self, hq, hle, hin⟩
    · obtain ⟨e', he', s, hs, hspan⟩ := ih hout hlt
      exact ⟨e', List.mem_cons_of_mem _ he', s, List.mem_cons_of_mem _ hs, hspan⟩

/-- A parse takes nothing past the tokens. -/
theorem Parses.endOf_le (hsize : ∀ e q, accepts e q = .ok true → q < size) {es : List Element}
    {p : Int} {spans : List Span} (h : Parses accepts es p spans) : endOf p spans ≤ max p size := by
  induction h with
  | nil p => exact Int.le_max_left ..
  | @cons e es p n spans _ haccepts _ ih =>
    rw [endOf_cons]
    dsimp only at ih ⊢
    rcases Nat.eq_zero_or_pos n with rfl | hn
    · simpa using ih
    · have := hsize e _ (haccepts (n - 1) (by omega))
      omega

/-! ### Runs -/

/-- The run that is taken from `base` on, once `count` of its tokens have been taken: all its tokens are
allowed and accepted, and it stops where that ends. -/
theorem runLength_spec {test : Int → Except Error Bool} {allows : Nat → Bool} (base : Int) :
    ∀ {left : Nat} (count : Nat) {n : Nat}, runLength test allows (base + count) count left = .ok n →
      count ≤ n ∧ n ≤ count + left ∧
      (∀ k, count ≤ k → k < n → allows k = true ∧ test (base + k) = .ok true) ∧
      (n = count + left ∨ allows n = false ∨ test (base + n) = .ok false) := by
  intro left
  induction left with
  | zero =>
    intro count n h
    obtain rfl := Except.ok.inj h
    exact ⟨Nat.le_refl _, Nat.le_refl _, fun k hk hk' => absurd hk (by omega), .inl rfl⟩
  | succ left ih =>
    intro count n h
    unfold runLength at h
    split at h
    · rename_i hallows
      obtain ⟨b, htest, h⟩ := bind_ok_iff.mp h
      cases b with
      | false =>
        obtain rfl := Except.ok.inj h
        exact ⟨Nat.le_refl _, by omega, fun k hk hk' => absurd hk (by omega), .inr (.inr htest)⟩
      | true =>
        have hnext : base + count + 1 = base + ((count + 1 : Nat) : Int) := by push_cast; omega
        simp only [if_true] at h
        rw [hnext] at h
        obtain ⟨hle, hle', hall, hstop⟩ := ih (count + 1) h
        refine ⟨by omega, by omega, fun k hk hk' => ?_, ?_⟩
        · rcases Nat.eq_or_lt_of_le hk with rfl | hlt
          · exact ⟨hallows, htest⟩
          · exact hall k hlt hk'
        · exact hstop.imp_left fun h => by omega
    · rename_i hallows
      obtain rfl := Except.ok.inj h
      exact ⟨Nat.le_refl _, by omega, fun k hk hk' => absurd hk (by omega), .inr (.inl (by simpa using hallows))⟩

/-- A run fails only by a test that it makes. -/
theorem runLength_error {test : Int → Except Error Bool} {allows : Nat → Bool} {err : Error} :
    ∀ {left count : Nat} {p : Int}, runLength test allows p count left = .error err →
      ∃ q, p ≤ q ∧ q < p + left ∧ test q = .error err := by
  intro left
  induction left with
  | zero => intro count p h; cases h
  | succ left ih =>
    intro count p h
    unfold runLength at h
    split at h
    · rcases bind_error_iff.mp h with h | ⟨b, _, h⟩
      · exact ⟨p, Int.le_refl p, by omega, h⟩
      · cases b with
        | false => cases h
        | true =>
          obtain ⟨q, hq, hq', hfail⟩ := ih h
          exact ⟨q, by omega, by push_cast; omega, hfail⟩
    · cases h

/-! ### Spans -/

/-- The first of some elements takes the longest run that it can.  If that is long enough the others go
on after it, else there are no spans. -/
theorem spansFrom_cons {e : Element} {es : List Element} {p : Int} {found : Option (List Span)}
    (h : spansFrom accepts size (e :: es) p = .ok found) :
    ∃ n : Nat, (∀ k < n, e.allowsMore k = true ∧ accepts e (p + k) = .ok true) ∧
      (e.allowsMore n = false ∨ size ≤ p + n ∨ accepts e (p + n) = .ok false) ∧
      ((e.isEnough n = true ∧ ∃ rest, spansFrom accepts size es (p + n) = .ok rest ∧
          found = rest.map (⟨p, p + n⟩ :: ·)) ∨
        (e.isEnough n = false ∧ found = none)) := by
  unfold spansFrom at h
  obtain ⟨n, hrun, h⟩ := bind_ok_iff.mp h
  obtain ⟨_, hle, hall, hstop⟩ := runLength_spec p 0 (by simpa using hrun)
  refine ⟨n, fun k hk => hall k (Nat.zero_le k) hk, ?_, ?_⟩
  · rcases hstop with h | h | h
    · exact .inr (.inl (by omega))
    · exact .inl h
    · exact .inr (.inr h)
  · split at h
    · rename_i henough
      obtain ⟨rest, hrest, h⟩ := bind_ok_iff.mp h
      exact .inl ⟨henough, rest, hrest, (Except.ok.inj h).symm⟩
    · rename_i hshort
      exact .inr ⟨by simpa using hshort, (Except.ok.inj h).symm⟩

/-- The spans that are found are a parse in which no run could be longer. -/
theorem spansFrom_some : ∀ {es : List Element} {p : Int} {spans : List Span},
    spansFrom accepts size es p = .ok (some spans) →
      Parses accepts es p spans ∧ List.Forall₂ (IsLongest accepts size) es spans := by
  intro es
  induction es with
  | nil =>
    intro p spans h
    obtain rfl := Option.some.inj (Except.ok.inj h)
    exact ⟨.nil p, .nil⟩
  | cons e es ih =>
    intro p spans h
    obtain ⟨n, hall, hstop, ⟨henough, rest, hrest, h⟩ | ⟨_, h⟩⟩ := spansFrom_cons h
    · obtain ⟨tail, rfl, rfl⟩ := Option.map_eq_some_iff.mp h.symm
      obtain ⟨hparse, hlongest⟩ := ih hrest
      have hfits : e.Fits n := ⟨henough, fun k hk => (hall k hk).1⟩
      refine ⟨.cons hfits (fun k hk => (hall k hk).2) hparse, .cons ?_ hlongest⟩
      unfold IsLongest
      dsimp only
      rwa [show (p + n - p).toNat = n by omega]
    · cases h

/-- Looking for spans fails only by a test that is made on the way. -/
theorem spansFrom_error {err : Error} : ∀ {es : List Element} {p : Int},
    spansFrom accepts size es p = .error err →
      ∃ e ∈ es, ∃ q, p ≤ q ∧ q < size ∧ accepts e q = .error err := by
  intro es
  induction es with
  | nil => intro p h; cases h
  | cons e es ih =>
    intro p h
    unfold spansFrom at h
    rcases bind_error_iff.mp h with h | ⟨n, _, h⟩
    · obtain ⟨q, hq, hq', hfail⟩ := runLength_error h
      exact ⟨e, List.mem_cons_self, q, hq, by omega, hfail⟩
    · split at h
      · rcases bind_error_iff.mp h with h | ⟨_, _, h⟩
        · obtain ⟨e', he', q, hq, hq', hfail⟩ := ih h
          exact ⟨e', List.mem_cons_of_mem _ he', q, by omega, hq', hfail⟩
        · cases h
      · cases h

end Parse

/-! ### Attempts -/

namespace Rule

variable {r : Rule} {tokens : List Token} {start : Int} {a : Attempt}

theorem attempt_start (h : r.attempt tokens start = .ok a) : a.start = start := by
  obtain ⟨spans, _, h⟩ := bind_ok_iff.mp h
  obtain rfl := Except.ok.inj h
  split <;> rfl

/-- An attempt is a match iff spans are found that take a token at least. -/
theorem attempt_spans (h : r.attempt tokens start = .ok a) (spans : List Span) :
    a.spans = some spans ↔
      spansFrom (r.accepts tokens) tokens.length r.elements start = .ok (some spans) ∧
        endOf start spans ≠ start := by
  obtain ⟨found, hfound, h⟩ := bind_ok_iff.mp h
  obtain rfl := Except.ok.inj h
  rw [hfound]
  cases found with
  | none => split <;> simp
  | some found =>
    have hstop : (⟨start, some found⟩ : Attempt).stop = endOf start found := rfl
    rw [hstop]
    split
    · rename_i hempty
      simp only [reduceCtorEq, Except.ok.injEq, Option.some.injEq, false_iff, not_and, not_not]
      rintro rfl
      exact hempty
    · rename_i hsome
      simp only [Except.ok.injEq, Option.some.injEq]
      exact ⟨fun h => ⟨h, h ▸ hsome⟩, And.left⟩

theorem attempt_stop {spans : List Span} (h : a.spans = some spans) :
    a.stop = endOf a.start spans := by
  unfold Attempt.stop
  rw [h]
  rfl

/-- A match takes a token at least, and none past the tokens. -/
theorem attempt_extent (h : r.attempt tokens start = .ok a) {spans : List Span}
    (hspans : a.spans = some spans) : start < a.stop ∧ a.stop ≤ tokens.length := by
  obtain ⟨hfound, hne⟩ := (attempt_spans h spans).mp hspans
  have hparse := (spansFrom_some hfound).1
  have hle := hparse.le_endOf
  have hle' := hparse.endOf_le fun e q hq => (Rule.bounds_of_accepts hq).2
  rw [attempt_stop hspans, attempt_start h]
  omega

/-- An attempt fails only where there are no tokens to count back to, or by a case setting. -/
theorem attempt_error {err : Error} (h : r.attempt tokens start = .error err) :
    (err = .range .tokens ∧ start < -tokens.length) ∨ IsCaseFailure r.caseSettings err := by
  rcases bind_error_iff.mp h with h | ⟨_, _, h⟩
  · obtain ⟨e, he, q, hq, hq', hfail⟩ := spansFrom_error h
    rcases Rule.accepts_error he hfail with ⟨herr, hout⟩ | hcase
    · exact .inl ⟨herr, by omega⟩
    · exact .inr hcase
  · cases h

end Rule

end Copyedit.Pattern
