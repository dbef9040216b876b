import Copyedit.Proofs.Pattern.Greedy
import Copyedit.Proofs.Pattern.Make

/-!
# The scan for matches

`Rule.attempts_scan`: the matches that a rule finds are those of a scan from left to right (`IsScan`).
Each is the match at its start, none overlap, and wherever the rule would match at all lies inside one of
them.  Only a case setting that is neither a truth value nor the number of one can stop the scan, and it
may do so (`exists_attempts_error`).

The scan is proved from any position on (`attemptsFrom_spec`): what is tried there is either skipped,
because the rule does not match, or taken, and then nothing inside it is tried again.
-/

namespace Copyedit.Pattern.Rule

variable {r : Rule} {tokens : List Token}

/-! ### Matches -/

/-- Whether the number of tokens in a span lies between the bounds of an element, where these are integers;
an upper bound that is not positive sets none. -/
def IsWithin (e : Element) (s : Span) : Prop :=
  ∀ least most : Int, e.least = .int least → e.most = .int most →
    least ≤ s.stop - s.first ∧ (0 < most → s.stop - s.first ≤ most)

/-- What the rule finds where it matches: a span for each element. -/
structure IsMatch (r : Rule) (tokens : List Token) (a : Attempt) (spans : List Span) : Prop where
  /-- It is what is found at its start. -/
  tried : r.attempt tokens a.start = .ok a
  /-- These are its spans. -/
  spans_eq : a.spans = some spans
  /-- There is one for each element. -/
  length_eq : spans.length = r.elements.length
  /-- They follow each other from the start on, and all tokens in them are accepted. -/
  parses : Parses (r.accepts tokens) r.elements a.start spans
  /-- The last one stops where the match does. -/
  stop_eq : endOf a.start spans = a.stop
  /-- Each holds a number of tokens between the bounds of its element. -/
  within : List.Forall₂ IsWithin r.elements spans
  /-- None of them could be longer. -/
  longest : List.Forall₂ (IsLongest (r.accepts tokens) tokens.length) r.elements spans
  /-- A token at least is taken, and none past the tokens. -/
  extent : a.start < a.stop ∧ a.stop ≤ tokens.length

theorem forall₂_isWithin {accepts : Element → Int → Except Error Bool} {es : List Element} {p : Int}
    {spans : List Span} (h : Parses accepts es p spans) : List.Forall₂ IsWithin es spans := by
  induction h with
  | nil p => exact .nil
  | @cons e es p n spans hfits _ _ ih =>
    refine .cons (fun least most hleast hmost => ?_) ih
    obtain ⟨hle, hle'⟩ := (Element.fits_iff hleast hmost n).mp hfits
    dsimp only
    omega

theorem attempt_isMatch {start : Int} {a : Attempt} {spans : List Span}
    (h : r.attempt tokens start = .ok a) (hspans : a.spans = some spans) :
    r.IsMatch tokens a spans := by
  obtain ⟨hfound, _⟩ := (attempt_spans h spans).mp hspans
  obtain ⟨hparses, hlongest⟩ := spansFrom_some hfound
  have hstart := attempt_start h
  rw [← hstart] at h hparses
  exact {
    tried := h
    spans_eq := hspans
    length_eq := hparses.length_eq
    parses := hparses
    stop_eq := (attempt_stop hspans).symm
    within := forall₂_isWithin hparses
    longest := hlongest
    extent := attempt_extent h hspans }

/-! ### From a position on -/

/-- What a scan from a position on finds. -/
structure IsScanFrom (r : Rule) (tokens : List Token) (start : Int) (found : List Attempt) :
    Prop where
  /-- All are matches, and none starts before the position. -/
  isMatch : ∀ a ∈ found, start ≤ a.start ∧ ∃ spans, r.IsMatch tokens a spans
  /-- They come in order and do not overlap. -/
  ordered : found.Pairwise fun a b => a.stop ≤ b.start
  /-- Each position where the rule would match lies inside one of them. -/
  complete : ∀ p a, start ≤ p → r.attempt tokens p = .ok a → a.spans.isSome →
    ∃ b ∈ found, b.start ≤ p ∧ p < b.stop

/-- There is nothing to find past the tokens. -/
theorem isScanFrom_end {start : Int} (h : tokens.length ≤ start) :
    r.IsScanFrom tokens start [] where
  isMatch := nofun
  ordered := .nil
  complete p a hp ha hmatch := by
    obtain ⟨spans, hspans⟩ := Option.isSome_iff_exists.mp hmatch
    have := attempt_extent ha hspans
    omega

/-- Where the rule does not match, the scan goes on with the next position. -/
theorem IsScanFrom.skip {start : Int} {a : Attempt} {found : List Attempt}
    (ha : r.attempt tokens start = .ok a) (hnone : a.spans.isSome = false)
    (h : r.IsScanFrom tokens (start + 1) found) : r.IsScanFrom tokens start found where
  isMatch b hb := ⟨by have := (h.isMatch b hb).1; omega, (h.isMatch b hb).2⟩
  ordered := h.ordered
  complete p b hp hb hmatch := by
    rcases Int.lt_or_eq_of_le hp with hlt | rfl
    · exact h.complete p b hlt hb hmatch
    · rw [ha] at hb
      obtain rfl := Except.ok.inj hb
      rw [hnone] at hmatch
      cases hmatch

/-- Where the rule matches, the scan goes on after the match. -/
theorem IsScanFrom.take {start : Int} {a : Attempt} {found : List Attempt}
    (ha : r.attempt tokens start = .ok a) (hsome : a.spans.isSome)
    (h : r.IsScanFrom tokens a.stop found) : r.IsScanFrom tokens start (a :: found) := by
  obtain ⟨spans, hspans⟩ := Option.isSome_iff_exists.mp hsome
  have hmatch := attempt_isMatch ha hspans
  have hstart := attempt_start ha
  have hlt := hmatch.extent.1
  constructor
  · intro b hb
    rcases List.mem_cons.mp hb with rfl | hb
    · exact ⟨by omega, spans, hmatch⟩
    · exact ⟨by have := (h.isMatch b hb).1; omega, (h.isMatch b hb).2⟩
  · exact List.pairwise_cons.mpr ⟨fun b hb => (h.isMatch b hb).1, h.ordered⟩
  · intro p b hp hb hbsome
    rcases Int.lt_or_le p a.stop with hinside | hafter
    · exact ⟨a, List.mem_cons_self, by omega, hinside⟩
    · obtain ⟨c, hc, hle, hlt'⟩ := h.complete p b hafter hb hbsome
      exact ⟨c, List.mem_cons_of_mem _ hc, hle, hlt'⟩

/-- With a try for each token that is left, the scan from a position on is complete, unless a case
setting stops it. -/
theorem attemptsFrom_spec : ∀ (left : Nat) (start : Int), 0 ≤ start → tokens.length ≤ start + left →
    (∃ found, r.attemptsFrom tokens start left = .ok found ∧ r.IsScanFrom tokens start found) ∨
      ∃ err, r.attemptsFrom tokens start left = .error err ∧ IsCaseFailure r.caseSettings err := by
  intro left
  -- each try moves the start on by one token at least, so tries and tokens run out together
  induction left with
  | zero =>
    intro start _ hleft
    exact .inl ⟨[], rfl, isScanFrom_end (by omega)⟩
  | succ left ih =>
    intro start hstart hleft
    unfold attemptsFrom
    split
    · cases ha : r.attempt tokens start with
      | error err =>
        rcases attempt_error ha with ⟨_, hneg⟩ | hcase
        · omega
        · exact .inr ⟨err, rfl, hcase⟩
      | ok a =>
        cases hsome : a.spans.isSome with
        | false =>
          rcases ih (start + 1) (by omega) (by omega) with
            ⟨found, hfound, hscan⟩ | ⟨err, herr, hcase⟩
          · exact .inl ⟨found, by simpa [bind, Except.bind, hsome] using hfound, hscan.skip ha hsome⟩
          · exact .inr ⟨err, by simpa [bind, Except.bind, hsome] using herr, hcase⟩
        | true =>
          obtain ⟨spans, hspans⟩ := Option.isSome_iff_exists.mp hsome
          have hextent := attempt_extent ha hspans
          rcases ih a.stop (by omega) (by omega) with
            ⟨found, hfound, hscan⟩ | ⟨err, herr, hcase⟩
          · refine .inl ⟨a :: found, ?_, hscan.take ha hsome⟩
            simp [bind, Except.bind, hsome, hfound, pure, Except.pure]
          · exact .inr ⟨err, by simp [bind, Except.bind, hsome, herr], hcase⟩
    · exact .inl ⟨[], rfl, isScanFrom_end (by omega)⟩

/-! ### The whole scan -/

/-- **The scan.**  A rule finds its matches from left to right: each is the match at its start, with a
greedy span for each element; none overlap; and no position where the rule would match is outside all of
them.  It finds them in all tokens unless one of its case settings is neither a truth value nor the
number of one. -/
theorem attempts_scan (r : Rule) (tokens : List Token) :
    (∃ found, r.attempts tokens = .ok found ∧ r.IsScanFrom tokens 0 found) ∨
      ∃ v ∈ r.caseSettings, ¬ ChoosesCase v ∧ r.attempts tokens = .error (.key v.quoted) := by
  rcases @attemptsFrom_spec r tokens tokens.length 0 (Int.le_refl 0) (by omega) with
    hfound | ⟨err, herr, v, hv, hbad, rfl⟩
  · exact .inl hfound
  · exact .inr ⟨v, hv, hbad, herr⟩

/-- A rule may be given a case setting that stops the scan at the first token. -/
theorem exists_attempts_error : ∃ e d r tokens,
    Element.make { token := some ['a'] } = .ok e ∧ d.elements = [e] ∧ make d = .ok r ∧
      ¬ ∃ found, r.attempts tokens = .ok found := by
  refine ⟨_, { id := "R", elements := [_], message := .text "", caseSensitive := .text "sometimes" }, _,
    [{ text := some ['a'] }], rfl, rfl, make_plain (by rfl) (by rfl) ?_, ?_⟩
  · simp [references, pieces]
  · rintro ⟨found, h⟩
    cases h

end Copyedit.Pattern.Rule
