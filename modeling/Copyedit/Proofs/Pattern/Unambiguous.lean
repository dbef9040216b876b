import Copyedit.Proofs.Pattern.Greedy
import Copyedit.Proofs.Pattern.Make

/-!
# Unambiguous patterns

A match never gives a token back, so it may fail although the elements could share the tokens out among
them.  It cannot if what an element with a choice of counts accepts is never accepted by a later element
(`Rule.IsUnambiguous`): then a rule matches exactly where there is a choice of spans that are not all
empty, and the spans it finds are the only longest choice (`Rule.attempt_unambiguous`).

A choice can differ from the greedy spans only by a shorter run of some element.  The token after that
run is accepted by this element, hence by no later one, so that the rest of the choice is empty
(`exists_greedy`).
-/

namespace Copyedit.Pattern

open Rule (Span Attempt)

/-! ### Elements with a choice -/

/-- Whether more than one count fits an element. -/
def Element.Varies (e : Element) : Prop := ∃ m n, m ≠ n ∧ e.Fits m ∧ e.Fits n

/-- With integers for bounds, an element has a choice iff the bounds differ. -/
theorem Element.varies_iff {e : Element} {a b : Int} (ha : e.least = .int a) (hb : e.most = .int b)
    (hleast : 0 ≤ a) (hmost : b = -1 ∨ a ≤ b) : e.Varies ↔ a ≠ b := by
  unfold Element.Varies
  simp only [Element.fits_iff ha hb]
  constructor
  · rintro ⟨m, n, hne, hm, hn⟩ rfl
    omega
  · intro hne
    exact ⟨a.toNat, (a + 1).toNat, by omega, by omega, by omega⟩

/-- From a position on, what an element with a choice of counts accepts is never accepted by a later
element. -/
def Unambiguous (accepts : Element → Int → Except Error Bool) (p : Int) (es : List Element) : Prop :=
  es.Pairwise fun e later => e.Varies → ∀ q, p ≤ q → accepts e q = .ok true →
    accepts later q ≠ .ok true

section Parse

variable {accepts : Element → Int → Except Error Bool} {size : Nat}

theorem Unambiguous.mono {p q : Int} {es : List Element} (h : Unambiguous accepts p es)
    (hpq : p ≤ q) : Unambiguous accepts q es :=
  h.imp fun h hvaries x hx => h hvaries x (Int.le_trans hpq hx)

/-! ### The rest of a choice -/

/-- Elements that do not accept the token where they start take no token. -/
theorem Parses.empty_of_not_accepts {es : List Element} {p : Int} {spans : List Span}
    (h : Parses accepts es p spans) (hnot : ∀ e ∈ es, accepts e p ≠ .ok true) :
    endOf p spans = p ∧ ∀ e ∈ es, e.isEnough 0 = true := by
  induction h with
  | nil p => exact ⟨endOf_nil p, fun e he => absurd he List.not_mem_nil⟩
  | @cons e es p n spans hfits haccepts _ ih =>
    have hzero : p + ((0 : Nat) : Int) = p := Int.add_zero p
    rcases Nat.eq_zero_or_pos n with rfl | hn
    · rw [hzero] at ih
      obtain ⟨hend, henough⟩ := ih fun e' he' => hnot e' (List.mem_cons_of_mem _ he')
      rw [endOf_cons, hzero]
      refine ⟨hend, fun e' he' => ?_⟩
      rcases List.mem_cons.mp he' with rfl | he'
      · exact hfits.1
      · exact henough e' he'
    · have haccept := haccepts 0 hn
      rw [hzero] at haccept
      exact absurd haccept (hnot e List.mem_cons_self)

/-- Elements that may all be left out are always satisfied. -/
theorem spansFrom_isSome : ∀ {es : List Element} {p : Int} {found : Option (List Span)},
    (∀ e ∈ es, e.isEnough 0 = true) → spansFrom accepts size es p = .ok found →
      found.isSome = true := by
  intro es
  induction es with
  | nil =>
    intro p found _ h
    obtain rfl := Except.ok.inj h
    rfl
  | cons e es ih =>
    intro p found hall h
    obtain ⟨n, _, _, ⟨_, rest, hrest, rfl⟩ | ⟨hshort, _⟩⟩ := spansFrom_cons h
    · rw [Option.isSome_map]
      exact ih (fun e' he' => hall e' (List.mem_cons_of_mem _ he')) hrest
    · rw [Element.isEnough_mono (hall e List.mem_cons_self) (Nat.zero_le n)] at hshort
      cases hshort

/-- **The greedy spans are the longest.**  Where there is a choice at all, greedy spans are found, and
they are that choice or a longer one. -/
theorem exists_greedy (hsize : ∀ e q, accepts e q = .ok true → q < size) {es : List Element} {p : Int}
    {choice : List Span} (h : Parses accepts es p choice) :
    Unambiguous accepts p es → ∀ {found}, spansFrom accepts size es p = .ok found →
      ∃ spans, found = some spans ∧ (choice = spans ∨ endOf p choice < endOf p spans) := by
  induction h with
  | nil p =>
    intro _ found hfound
    exact ⟨[], (Except.ok.inj hfound).symm, .inl rfl⟩
  | @cons e es p m choice hfits haccepts hrest ih =>
    intro hunambiguous found hfound
    obtain ⟨hlater, hrestUnambiguous⟩ := List.pairwise_cons.mp hunambiguous
    obtain ⟨n, hall, hstop, hcases⟩ := spansFrom_cons hfound
    -- what the choice takes, the greedy run takes as well
    have hmn : m ≤ n := by
      by_contra hlt
      have hallows := hfits.2 n (by omega)
      have haccept := haccepts n (by omega)
      rcases hstop with h | h | h
      · rw [hallows] at h; cases h
      · have := hsize e _ haccept; omega
      · rw [haccept] at h; cases h
    have henough := Element.isEnough_mono hfits.1 hmn
    obtain ⟨_, rest, hfoundRest, rfl⟩ | ⟨hshort, _⟩ := hcases
    · rcases Nat.eq_or_lt_of_le hmn with rfl | hlt
      · have hunambiguous' : Unambiguous accepts p es := hrestUnambiguous
        obtain ⟨spans, rfl, hspans⟩ := ih (hunambiguous'.mono (by omega)) hfoundRest
        refine ⟨_, rfl, ?_⟩
        rw [endOf_cons, endOf_cons]
        exact hspans.imp_left (congrArg _)
      -- the choice takes less, so that what the greedy run takes next is left to nothing
      · have hvaries : e.Varies := ⟨m, n, by omega, hfits, henough, fun k hk => (hall k hk).1⟩
        have hnot : ∀ e' ∈ es, accepts e' (p + m) ≠ .ok true := fun e' he' =>
          hlater e' he' hvaries _ (by omega) (hall m hlt).2
        obtain ⟨hend, hoptional⟩ := hrest.empty_of_not_accepts hnot
        obtain ⟨spans, rfl⟩ := Option.isSome_iff_exists.mp (spansFrom_isSome hoptional hfoundRest)
        have hle := (spansFrom_some hfoundRest).1.le_endOf
        refine ⟨_, rfl, .inr ?_⟩
        rw [endOf_cons, endOf_cons]
        dsimp only
        omega
    · rw [henough] at hshort
      cases hshort

theorem Parses.exists_nonempty_iff {es : List Element} {p : Int} {spans : List Span}
    (h : Parses accepts es p spans) : (∃ s ∈ spans, s.first ≠ s.stop) ↔ endOf p spans ≠ p := by
  induction h with
  | nil p => simp [endOf_nil]
  | @cons e es p n spans _ _ hrest ih =>
    have hle := hrest.le_endOf
    rw [endOf_cons]
    simp only [List.mem_cons, exists_eq_or_imp, ih]
    omega

end Parse

/-! ### Rules -/

namespace Rule

/-- What an element with a choice of counts accepts, from a position on, no later element accepts. -/
def IsUnambiguous (r : Rule) (tokens : List Token) (start : Int) : Prop :=
  Unambiguous (r.accepts tokens) start r.elements

/-- Whether the elements of a rule can take these spans from a position on, and not all are empty. -/
def IsChoice (r : Rule) (tokens : List Token) (start : Int) (spans : List Span) : Prop :=
  Parses (r.accepts tokens) r.elements start spans ∧ ∃ s ∈ spans, s.first ≠ s.stop

/-- **Unambiguous patterns.**  An unambiguous rule matches at a position iff its elements can share out
the tokens from there on, and it finds the only longest way to do so.  An attempt that returns nothing
starts before all tokens, even counted from their end, or meets a case setting that is neither a truth
value nor the number of one. -/
theorem attempt_unambiguous {r : Rule} {tokens : List Token} {start : Int}
    (h : r.IsUnambiguous tokens start) :
    (∃ a, r.attempt tokens start = .ok a ∧
      (a.spans.isSome = true ↔ ∃ choice, r.IsChoice tokens start choice) ∧
      ∀ spans, a.spans = some spans → r.IsChoice tokens start spans ∧
        ∀ choice, r.IsChoice tokens start choice → choice ≠ spans →
          endOf start choice < endOf start spans) ∨
    (start < -tokens.length ∧ r.attempt tokens start = .error (.range .tokens)) ∨
    ∃ v ∈ r.caseSettings, ¬ ChoosesCase v ∧ r.attempt tokens start = .error (.key v.quoted) := by
  cases ha : r.attempt tokens start with
  | error err =>
    rcases attempt_error ha with ⟨rfl, hstart⟩ | ⟨v, hv, hbad, rfl⟩
    · exact .inr (.inl ⟨hstart, rfl⟩)
    · exact .inr (.inr ⟨v, hv, hbad, rfl⟩)
  | ok a =>
    obtain ⟨found, hfound, _⟩ := bind_ok_iff.mp ha
    have hlongest : ∀ choice, r.IsChoice tokens start choice → ∃ spans, found = some spans ∧
        (choice = spans ∨ endOf start choice < endOf start spans) := fun choice hchoice =>
      exists_greedy (fun e q hq => (bounds_of_accepts hq).2) hchoice.1 h hfound
    refine .inl ⟨a, rfl, ⟨fun hsome => ?_, fun ⟨choice, hchoice⟩ => ?_⟩, fun spans hspans => ?_⟩
    · obtain ⟨spans, hspans⟩ := Option.isSome_iff_exists.mp hsome
      obtain ⟨hspans, hne⟩ := (attempt_spans ha spans).mp hspans
      have hparses := (spansFrom_some hspans).1
      exact ⟨spans, hparses, hparses.exists_nonempty_iff.mpr hne⟩
    · obtain ⟨spans, rfl, hle⟩ := hlongest choice hchoice
      have hne := hchoice.1.exists_nonempty_iff.mp hchoice.2
      have hstart := hchoice.1.le_endOf
      have hspans : a.spans = some spans := (attempt_spans ha spans).mpr ⟨hfound, by
        rcases hle with rfl | hlt
        · exact hne
        · omega⟩
      rw [hspans]
      rfl
    · obtain ⟨hspans, hne⟩ := (attempt_spans ha spans).mp hspans
      have hparses := (spansFrom_some hspans).1
      refine ⟨⟨hparses, hparses.exists_nonempty_iff.mpr hne⟩, fun choice hchoice hdiffers => ?_⟩
      obtain ⟨spans', rfl, hle⟩ := hlongest choice hchoice
      rw [hfound] at hspans
      obtain rfl := Option.some.inj (Except.ok.inj hspans)
      exact hle.resolve_left hdiffers

/-- "very", any number of times, and then "good": no choice for "very good" is as long as the one that is
found. -/
theorem attempt_very_good : ∃ e e' d r tokens,
    Element.make { base := .text "very", caseSensitive := .bool true } (.int 0) (.int (-1)) = .ok e ∧
      Element.make { base := .text "good", caseSensitive := .bool true } = .ok e' ∧
      d.elements = [e, e'] ∧ make d = .ok r ∧ r.IsUnambiguous tokens 0 ∧
      r.IsChoice tokens 0 [⟨0, 1⟩, ⟨1, 2⟩] ∧
      ∀ choice, r.IsChoice tokens 0 choice → choice ≠ [⟨0, 1⟩, ⟨1, 2⟩] → endOf 0 choice < 2 := by
  have hlongest : ∀ {r : Rule} {tokens : List Token} {spans : List Span}, r.IsUnambiguous tokens 0 →
      r.attempt tokens 0 = .ok ⟨0, some spans⟩ → r.IsChoice tokens 0 spans ∧
        ∀ choice, r.IsChoice tokens 0 choice → choice ≠ spans → endOf 0 choice < endOf 0 spans := by
    intro r tokens spans h ha
    rcases attempt_unambiguous h with ⟨a, ha', _, hspans⟩ | ⟨_, ha'⟩ | ⟨_, _, _, ha'⟩
    · rw [ha] at ha'
      obtain rfl := Except.ok.inj ha'
      exact hspans spans rfl
    · rw [ha] at ha'; cases ha'
    · rw [ha] at ha'; cases ha'
  refine ⟨_, _, { id := "R", elements := [_, _], message := .text "" }, _,
    [.ofReading none (some "very".toList) none, .ofReading none (some "good".toList) none], rfl, rfl, rfl,
    make_plain (by rfl) (by rfl) ?_, ?_, hlongest ?_ rfl⟩
  · simp [references, pieces]
  all_goals
    refine List.pairwise_pair.mpr fun _ q hq haccept hlater => ?_
    have hq' : q < 2 := (bounds_of_accepts haccept).2
    obtain rfl | rfl : q = 0 ∨ q = 1 := by omega
    · cases hlater
    · cases haccept

/-- An element that may be left out can stop a match for which there is a choice, if it is given a case
setting that is no truth value. -/
theorem exists_choice_attempt_error : ∃ e e' d r tokens,
    Element.make { token := some ['a'], caseSensitive := .text "sometimes" } (.int 0) (.int (-1)) = .ok e ∧
      Element.make { base := .text "b", caseSensitive := .bool true } = .ok e' ∧
      d.elements = [e, e'] ∧ make d = .ok r ∧ r.IsUnambiguous tokens 0 ∧
      (∃ choice, r.IsChoice tokens 0 choice) ∧
      ¬ ∃ a, r.attempt tokens 0 = .ok a ∧ a.spans.isSome = true := by
  refine ⟨_, _, { id := "R", elements := [_, _], message := .text "" }, _,
    [.ofReading (some ['b']) (some ['b']) none], rfl, rfl, rfl, make_plain (by rfl) (by rfl) ?_, ?_, ?_,
    ?_⟩
  · simp [references, pieces]
  · refine List.pairwise_pair.mpr fun _ q hq haccept => ?_
    have hq' : q < 1 := (bounds_of_accepts haccept).2
    obtain rfl : q = 0 := by omega
    cases haccept
  · refine ⟨[⟨0, 0⟩, ⟨0, 1⟩], .cons (n := 0) ⟨rfl, fun k hk => absurd hk (Nat.not_lt_zero k)⟩
      (fun k hk => absurd hk (Nat.not_lt_zero k)) ?_, by simp⟩
    refine .cons (n := 1) ⟨rfl, fun k hk => ?_⟩ (fun k hk => ?_) (.nil _)
    · obtain rfl : k = 0 := by omega
      rfl
    · obtain rfl : k = 0 := by omega
      rfl
  · rintro ⟨a, ha, _⟩
    cases ha

end Rule

end Copyedit.Pattern
