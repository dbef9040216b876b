import Copyedit.Pattern.Rule
import Copyedit.Proofs.Sentence.Shift
import Copyedit.Proofs.Sequence

/-!
# Patterns elsewhere in a document

A constraint tests what a token says of itself, so elements accept the same tokens wherever these stand
(`Rule.accepts_shift`).  Matches are counted in tokens and are the same (`Rule.attempts_shift`); only what
is reported of them names positions in the document, and is moved with the tokens (`Rule.findings_shift`).
-/

namespace Copyedit.Pattern

variable {d : Int}

/-! ### Tests -/

theorem Exception.vetoes_shift (x : Exception) (tokens : List Token) (index : Int) (default : Value) :
    x.vetoes (tokens.map (Token.shift d)) index default = x.vetoes tokens index default := by
  unfold vetoes
  dsimp only
  rw [List.getElem?_map]
  cases tokens[(index + x.scope.offset).toNat]? <;> rfl

theorem Element.isVetoed_shift (xs : List Exception) (tokens : List Token) (index : Int)
    (setting : Value) :
    isVetoed xs (tokens.map (Token.shift d)) index setting = isVetoed xs tokens index setting := by
  induction xs with
  | nil => rfl
  | cons x rest ih =>
    unfold isVetoed
    rw [x.vetoes_shift, ih]

theorem Element.tokenAt_shift (tokens : List Token) (index : Int) :
    tokenAt (tokens.map (Token.shift d)) index = (tokenAt tokens index).map (Token.shift d) := by
  unfold tokenAt itemAt
  rw [List.length_map]
  dsimp only
  generalize (if index < 0 then index + (tokens.length : Int) else index) = place
  split
  · rfl
  · rw [List.getElem?_map]
    cases tokens[place.toNat]? <;> rfl

theorem Element.accepts_shift (e : Element) (tokens : List Token) (index : Int) (default : Value) :
    e.accepts (tokens.map (Token.shift d)) index default = e.accepts tokens index default := by
  unfold accepts
  rw [tokenAt_shift, bind_map_eq]
  refine bind_congr fun k => ?_
  -- a constraint does not look at the position of a token
  rw [isVetoed_shift]
  rfl

namespace Rule

variable (r : Rule) (tokens : List Token)

/-- Whether an element accepts a token does not depend on where the tokens stand. -/
theorem accepts_shift : r.accepts (tokens.map (Token.shift d)) = r.accepts tokens := by
  funext e position
  unfold accepts
  rw [e.accepts_shift]

/-! ### Matches -/

theorem attempt_shift (start : Int) :
    r.attempt (tokens.map (Token.shift d)) start = r.attempt tokens start := by
  unfold attempt
  rw [accepts_shift, List.length_map]

theorem attemptsFrom_shift (left : Nat) (start : Int) :
    r.attemptsFrom (tokens.map (Token.shift d)) start left = r.attemptsFrom tokens start left := by
  induction left generalizing start with
  | zero => rfl
  | succ left ih =>
    unfold attemptsFrom
    simp only [List.length_map, attempt_shift, ih]

/-- A rule matches the same tokens wherever these stand. -/
theorem attempts_shift : r.attempts (tokens.map (Token.shift d)) = r.attempts tokens := by
  unfold attempts
  rw [List.length_map, attemptsFrom_shift]

theorem spans_shift : r.spans (tokens.map (Token.shift d)) = r.spans tokens := by
  unfold spans
  rw [attempts_shift]

/-! ### Reports -/

theorem report_shift (spans : List Span) :
    r.report (tokens.map (Token.shift d)) spans =
      (r.report tokens spans).map (Finding.shift d) := by
  unfold report
  have htexts : (fun s : Span => surfaceText (stretch (tokens.map (Token.shift d)) s.first s.stop)) =
      fun s => surfaceText (stretch tokens s.first s.stop) := by
    funext s
    rw [stretch_map, surfaceText_shift]
  rw [htexts, map_bind_eq]
  refine bind_congr fun texts => ?_
  dsimp only
  rw [map_bind_eq]
  refine bind_congr fun message => ?_
  rw [Element.tokenAt_shift, bind_map_eq, map_bind_eq]
  refine bind_congr fun first => ?_
  rw [Element.tokenAt_shift, bind_map_eq, map_bind_eq]
  refine bind_congr fun last => ?_
  rw [Token.stop_shift, bind_map_eq, map_bind_eq]
  refine bind_congr fun stop => ?_
  rw [map_bind_eq]
  rfl

/-- What a rule finds in tokens moves with them. -/
theorem findings_shift :
    r.findings (tokens.map (Token.shift d)) =
      (r.findings tokens).map (List.map (Finding.shift d)) := by
  unfold findings
  rw [spans_shift, map_bind_eq]
  refine bind_congr fun matched => ?_
  rw [← mapM_map_eq]
  exact congrArg (fun f => matched.mapM f) (funext (r.report_shift tokens))

end Rule

end Copyedit.Pattern
