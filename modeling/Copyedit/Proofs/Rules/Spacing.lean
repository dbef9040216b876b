import Copyedit.Proofs.Outcome
import Copyedit.Proofs.Sentence.Placement
import Copyedit.Rules.Spacing

/-!
# Runs of spaces

A run that is reported is one of two or more spaces between visible characters, and all of these are reported
(`mem_runs_iff`), in their order and apart from each other (`pairwise_runs`): what the scan notes before a
position is what stands there (`Before.Tells`), and a visible character ends the run that is noted.

In a sentence that is made of its tokens, a run stands between two neighbours, and as many tokens end before
it as its finding says (`exists_report`).

One space in place of the last run leaves the runs before it, and no other (`isRun_collapse_iff`).  So with one
space in place of each run none is left.  The main statement `findings_spaces` puts this together.
-/

namespace Copyedit

/-! ### Suggestions put in -/

namespace Finding

/-- A text at a position, with the first suggestion of a finding in place of what it reports. -/
def replaceIn (p : Int) (f : Finding) (t : Text) : Text :=
  t.take (f.start - p).toNat ++ (f.suggestions.headD [] ++ t.drop (f.stop - p).toNat)

/-- A text at a position, with the first suggestions of findings in their places.  The last one is put in
first, so that the positions of the others stay what they are. -/
def replaceAllIn (p : Int) (found : List Finding) (t : Text) : Text := found.foldr (replaceIn p) t

/-- A finding reports what stands between two neighbouring tokens, and its token indices are both that of
the second. -/
def IsBetween (f : Finding) (tokens : List Token) : Prop :=
  ∃ (i : Nat) (a b : Token), tokens[i]? = some a ∧ tokens[i + 1]? = some b ∧
    a.stop = .ok f.start ∧ b.start = f.stop ∧ f.firstToken = i + 1 ∧ f.endToken = i + 1

end Finding

/-- A text as a sentence at a position. -/
def Text.sentenceAt (t : Text) (p : Int) : Sentence where
  text := t
  tokens := t.tokens p
  start := p

namespace Spacing

variable {t : Text} {first stop position : Nat} {c : Char}

theorem isBlank_of_isSpace {c : Char} (h : isSpace c = true) : isBlank c = true := by
  unfold isSpace at h
  rw [Bool.or_eq_true, decide_eq_true_eq, decide_eq_true_eq] at h
  rcases h with rfl | rfl <;> decide

/-! ### Runs -/

/-- The characters between two positions of a text are spaces. -/
def AreSpaces (t : Text) (first stop : Nat) : Prop :=
  ∀ n, first ≤ n → n < stop → ∃ c, t[n]? = some c ∧ isSpace c = true

/-- A visible character stands at a position. -/
def IsVisibleAt (t : Text) (position : Nat) : Prop := ∃ c, t[position]? = some c ∧ isBlank c = false

/-- A visible character stands before a position. -/
def FollowsVisible (t : Text) (position : Nat) : Prop := ∃ n, n + 1 = position ∧ IsVisibleAt t n

/-- Spaces behind a visible character. -/
structure IsOpenRun (t : Text) (first stop : Nat) : Prop where
  /-- There are some. -/
  first_lt_stop : first < stop
  /-- They are spaces. -/
  spaces : AreSpaces t first stop
  /-- A visible character stands before them. -/
  follows : FollowsVisible t first

/-- Two or more spaces between visible characters. -/
structure IsRun (t : Text) (first stop : Nat) : Prop where
  /-- There are two at least. -/
  length : first + 2 ≤ stop
  /-- They are spaces. -/
  spaces : AreSpaces t first stop
  /-- A visible character stands before them. -/
  follows : FollowsVisible t first
  /-- A visible character stands behind them. -/
  visible : IsVisibleAt t stop

theorem AreSpaces.not_visible (h : AreSpaces t first stop) {n : Nat} (hle : first ≤ n) (hlt : n < stop) :
    ¬ IsVisibleAt t n := by
  rintro ⟨c, hc, hvisible⟩
  obtain ⟨c', hc', hspace⟩ := h n hle hlt
  obtain rfl : c' = c := Option.some.inj (hc'.symm.trans hc)
  rw [isBlank_of_isSpace hspace] at hvisible
  cases hvisible

theorem isVisibleAt_iff (hc : t[position]? = some c) : IsVisibleAt t position ↔ isBlank c = false := by
  refine ⟨?_, fun h => ⟨c, hc, h⟩⟩
  rintro ⟨c', hc', h⟩
  rwa [Option.some.inj (hc.symm.trans hc')]

theorem followsVisible_succ_iff (hc : t[position]? = some c) :
    FollowsVisible t (position + 1) ↔ isBlank c = false := by
  rw [← isVisibleAt_iff hc]
  constructor
  · rintro ⟨n, hn, h⟩
    rwa [← Nat.succ.inj hn]
  · exact fun h => ⟨position, rfl, h⟩

/-- A space joins the spaces before it, or is the first behind a visible character. -/
theorem isOpenRun_succ_iff (hc : t[position]? = some c) : IsOpenRun t first (position + 1) ↔
    isSpace c = true ∧ (IsOpenRun t first position ∨ first = position ∧ FollowsVisible t position) := by
  constructor
  · rintro ⟨hlt, hspaces, hfollows⟩
    obtain ⟨c', hc', hspace⟩ := hspaces position (Nat.lt_succ_iff.mp hlt) (Nat.lt_succ_self _)
    obtain rfl : c' = c := Option.some.inj (hc'.symm.trans hc)
    refine ⟨hspace, ?_⟩
    rcases Nat.lt_succ_iff_lt_or_eq.mp hlt with hlt | rfl
    · exact .inl ⟨hlt, fun n hle hn => hspaces n hle (Nat.lt_succ_of_lt hn), hfollows⟩
    · exact .inr ⟨rfl, hfollows⟩
  · rintro ⟨hspace, ⟨hlt, hspaces, hfollows⟩ | ⟨rfl, hfollows⟩⟩
    · refine ⟨Nat.lt_succ_of_lt hlt, fun n hle hn => ?_, hfollows⟩
      rcases Nat.lt_succ_iff_lt_or_eq.mp hn with hn | rfl
      · exact hspaces n hle hn
      · exact ⟨c, hc, hspace⟩
    · refine ⟨Nat.lt_succ_self _, fun n hle hn => ?_, hfollows⟩
      obtain rfl : n = first := by omega
      exact ⟨c, hc, hspace⟩

theorem isRun_iff : IsRun t first stop ↔
    IsOpenRun t first stop ∧ first + 2 ≤ stop ∧ IsVisibleAt t stop :=
  ⟨fun h => ⟨⟨by have := h.length; omega, h.spaces, h.follows⟩, h.length, h.visible⟩,
    fun ⟨hopen, hlength, hvisible⟩ => ⟨hlength, hopen.spaces, hopen.follows, hvisible⟩⟩

/-! ### The scan -/

namespace Before

variable {before : Before}

/-- What is noted before a position is what stands there. -/
structure Tells (before : Before) (t : Text) (position : Nat) : Prop where
  /-- A visible character is noted where there is one. -/
  visible_iff : before = .visible ↔ FollowsVisible t position
  /-- Spaces are noted where there are some behind a visible character. -/
  spaces_iff : ∀ first, before = .spaces first ↔ IsOpenRun t first position

/-- What is noted behind a character at a position. -/
def after (before : Before) (position : Nat) (c : Char) : Before :=
  if isSpace c then
    match before with
    | .visible => .spaces position
    | b => b
  else if isBlank c then .blank else .visible

/-- The run that a character at a position ends, if there is one. -/
def ended (before : Before) (position : Nat) (c : Char) : List (Nat × Nat) :=
  match before with
  | .spaces first => if isBlank c = false ∧ first + 2 ≤ position then [(first, position)] else []
  | _ => []

theorem Tells.after (h : before.Tells t position) (hc : t[position]? = some c) :
    (before.after position c).Tells t (position + 1) := by
  have hblank : isSpace c = true → isBlank c = true := isBlank_of_isSpace
  constructor
  · rw [followsVisible_succ_iff hc]
    unfold Before.after
    cases before <;> grind
  · intro first
    rw [isOpenRun_succ_iff hc, ← h.spaces_iff, ← h.visible_iff]
    unfold Before.after
    cases before <;> grind

theorem Tells.mem_ended_iff (h : before.Tells t position) (hc : t[position]? = some c) :
    (first, stop) ∈ before.ended position c ↔ stop = position ∧ IsRun t first stop := by
  have hrun : (stop = position ∧ IsRun t first stop) ↔
      stop = position ∧ before = .spaces first ∧ first + 2 ≤ position ∧ isBlank c = false := by
    refine and_congr_right ?_
    rintro rfl
    rw [isRun_iff, h.spaces_iff, isVisibleAt_iff hc]
  rw [hrun]
  unfold ended
  cases before <;> grind

end Before

theorem runsFrom_cons (before : Before) (position : Nat) (c : Char) (rest : Text) :
    runsFrom before position (c :: rest) =
      before.ended position c ++ runsFrom (before.after position c) (position + 1) rest := by
  conv_lhs => unfold runsFrom
  unfold Before.ended Before.after
  -- a character is a space, another blank or visible
  by_cases hspace : isSpace c = true
  · have hblank := isBlank_of_isSpace hspace
    cases before <;> simp [hspace, hblank]
  · by_cases hblank : isBlank c = true
    · cases before <;> simp [hspace, hblank]
    · cases before with
      | visible => simp [hspace, hblank]
      | spaces first => by_cases hlong : first + 2 ≤ position <;> simp [hspace, hblank, hlong]
      | blank => simp [hspace, hblank]

/-- From a position on, the scan finds the runs that end there or later, in their order. -/
theorem runsFrom_spec {before : Before} {rest : Text} (h : before.Tells t position)
    (hrest : t.drop position = rest) :
    (∀ first stop, (first, stop) ∈ runsFrom before position rest ↔ position ≤ stop ∧ IsRun t first stop) ∧
    (runsFrom before position rest).Pairwise fun a b => a.2 < b.1 := by
  induction rest generalizing before position with
  | nil =>
    have hlength : t.length ≤ position := List.drop_eq_nil_iff.mp hrest
    refine ⟨fun first stop => ?_, .nil⟩
    rw [runsFrom]
    refine ⟨fun hmem => absurd hmem List.not_mem_nil, fun ⟨hle, hrun⟩ => ?_⟩
    obtain ⟨c, hc, -⟩ := hrun.visible
    rw [List.getElem?_eq_none (by omega)] at hc
    cases hc
  | cons c rest ih =>
    have hc : t[position]? = some c := by rw [← List.head?_drop, hrest, List.head?_cons]
    have hnext : t.drop (position + 1) = rest := by rw [← List.tail_drop, hrest, List.tail_cons]
    obtain ⟨hmem, hpairwise⟩ := ih (h.after hc) hnext
    rw [runsFrom_cons]
    constructor
    · intro first stop
      rw [List.mem_append, h.mem_ended_iff hc, hmem, ← or_and_right]
      exact and_congr_left fun _ => by omega
    · refine List.pairwise_append.mpr ⟨?_, hpairwise, ?_⟩
      · unfold Before.ended
        split
        · split
          · exact List.pairwise_singleton _ _
          · exact .nil
        · exact .nil
      · -- a run that goes on behind the visible character begins behind it
        rintro ⟨first, stop⟩ hended ⟨first', stop'⟩ hlater
        obtain ⟨rfl, hrun⟩ := (h.mem_ended_iff hc).mp hended
        obtain ⟨hle, hrun'⟩ := (hmem first' stop').mp hlater
        by_contra hnot
        exact hrun'.spaces.not_visible (Nat.not_lt.mp hnot) hle hrun.visible

theorem tells_blank_zero (t : Text) : Before.blank.Tells t 0 where
  visible_iff := ⟨nofun, fun ⟨n, hn, _⟩ => by omega⟩
  spaces_iff first := ⟨nofun, fun h => absurd h.first_lt_stop (Nat.not_lt_zero first)⟩

/-- The scan finds the runs of two or more spaces between visible characters. -/
theorem mem_runs_iff : (first, stop) ∈ runs t ↔ IsRun t first stop := by
  rw [runs, (runsFrom_spec (tells_blank_zero t) List.drop_zero).1, and_iff_right (Nat.zero_le stop)]

-- neither a single space, nor spaces next to a tab or at an end
example : runs "a  b c \t d\u00a0 e  ".toList = [(1, 3), (10, 12)] := by decide

theorem pairwise_runs (t : Text) : (runs t).Pairwise fun a b => a.2 < b.1 :=
  (runsFrom_spec (tells_blank_zero t) List.drop_zero).2

/-! ### Tokens around a run -/

section Tokens

variable {p : Int} {tokens : List Token}

/-- A visible character stands in a token. -/
theorem exists_token_of_isVisibleAt (h : IsTokenized p t tokens) {n : Nat} (hn : IsVisibleAt t n) :
    ∃ k ∈ tokens, k.start ≤ p + n ∧ p + n < k.piece.stop := by
  obtain ⟨c, hc, hvisible⟩ := hn
  obtain ⟨hlt, rfl⟩ := List.getElem?_eq_some_iff.mp hc
  obtain ⟨q, hq, hcover⟩ := h.layout.exists_piece hlt hvisible
  obtain ⟨k, hk, rfl⟩ := List.mem_map.mp hq
  exact ⟨k, hk, hcover⟩

/-- What stands in a token is visible. -/
theorem isVisibleAt_of_mem (h : IsTokenized p t tokens) {k : Token} (hk : k ∈ tokens) {n : Nat}
    (hle : k.start ≤ p + n) (hlt : p + n < k.piece.stop) : IsVisibleAt t n := by
  have hpiece : k.piece ∈ tokens.map Token.piece := List.mem_map_of_mem hk
  have hbounds := h.layout.bounds hpiece
  have hn : n < t.length := by omega
  exact ⟨t[n], List.getElem?_eq_getElem hn, (h.layout.cover h.piece_solid hn).mpr ⟨_, hpiece, hle, hlt⟩⟩

/-- A run stands between two neighbouring tokens. -/
theorem exists_neighbours (h : IsTokenized p t tokens) (hrun : IsRun t first stop) :
    ∃ front a b back, tokens = front ++ a :: b :: back ∧ a.piece.stop = p + first ∧ b.start = p + stop := by
  obtain ⟨n, rfl, hbefore⟩ := hrun.follows
  have hlength := hrun.length
  -- no token reaches into the run
  have hnone : ∀ k ∈ tokens, ∀ m : Nat, n + 1 ≤ m → m < stop → ¬ (k.start ≤ p + m ∧ p + m < k.piece.stop) :=
    fun k hk m hle hlt hcover => hrun.spaces.not_visible hle hlt (isVisibleAt_of_mem h hk hcover.1 hcover.2)
  obtain ⟨a, ha, haStart, haStop⟩ := exists_token_of_isVisibleAt h hbefore
  obtain ⟨b, hb, hbStart, hbStop⟩ := exists_token_of_isVisibleAt h hrun.visible
  have haEnd := hnone a ha (n + 1) (Nat.le_refl _) (by omega)
  have hbEnd := hnone b hb (stop - 1) (by omega) (by omega)
  have hapart : tokens.Pairwise fun k l => k.piece.stop ≤ l.start := List.pairwise_map.mp h.layout.pairwise
  have hpositive : ∀ k ∈ tokens, k.start < k.piece.stop := fun k hk =>
    (h.layout.bounds (List.mem_map_of_mem hk)).2.1
  obtain ⟨front, rest, rfl⟩ := List.append_of_mem ha
  obtain ⟨-, hrest, hfront⟩ := List.pairwise_append.mp hapart
  obtain ⟨haRest, hrest⟩ := List.pairwise_cons.mp hrest
  have hbRest : b ∈ rest := by
    rcases List.mem_append.mp hb with hb | hb
    · have hle := hfront b hb a List.mem_cons_self
      omega
    · rcases List.mem_cons.mp hb with rfl | hb
      · omega
      · exact hb
  cases rest with
  | nil => cases hbRest
  | cons k back =>
    refine ⟨front, a, k, back, rfl, by omega, ?_⟩
    rcases List.mem_cons.mp hbRest with rfl | hbBack
    · omega
    · -- a token between the two would stand in the run
      have hk : k ∈ front ++ a :: k :: back := by simp
      have hle := haRest k List.mem_cons_self
      have hge := (List.pairwise_cons.mp hrest).1 b hbBack
      have hlt := hpositive k hk
      exact absurd ⟨by omega, by omega⟩ (hnone k hk (k.start - p).toNat (by omega) (by omega))

theorem mapM_stop (h : IsTokenized p t tokens) :
    tokens.mapM Token.stop = .ok (tokens.map fun k => k.piece.stop) := by
  rw [mapM_ok_iff, List.forall₂_map_right_iff, List.forall₂_same]
  exact fun k hk => h.stop_eq hk

/-- Of tokens in a text, those that end where one ends or before are that one and those before it. -/
theorem length_filter_stop {front rest : List Token} {a : Token} (h : IsTokenized p t (front ++ a :: rest)) :
    (((front ++ a :: rest).map fun k => k.piece.stop).filter (· ≤ a.piece.stop)).length = front.length + 1 := by
  have hapart : (front ++ a :: rest).Pairwise fun k l => k.piece.stop ≤ l.start :=
    List.pairwise_map.mp h.layout.pairwise
  have hpositive : ∀ k ∈ front ++ a :: rest, k.start < k.piece.stop := fun k hk =>
    (h.layout.bounds (List.mem_map_of_mem hk)).2.1
  obtain ⟨-, hrest, hfront⟩ := List.pairwise_append.mp hapart
  have ha := hpositive a (by simp)
  have hbefore : ∀ k ∈ front, k.piece.stop ≤ a.piece.stop := by
    intro k hk
    have hle := hfront k hk a List.mem_cons_self
    omega
  have hbehind : ∀ k ∈ rest, ¬ k.piece.stop ≤ a.piece.stop := by
    intro k hk
    have hle := (List.pairwise_cons.mp hrest).1 k hk
    have hlt := hpositive k (by simp [hk])
    omega
  rw [List.map_append, List.map_cons, List.filter_append, List.filter_cons_of_pos (by simp),
    List.filter_eq_self.mpr (by simpa using hbefore), List.filter_eq_nil_iff.mpr (by simpa using hbehind)]
  simp

/-- A finding reports a run of a text at a position that is made of tokens. -/
structure Reports (p : Int) (tokens : List Token) (run : Nat × Nat) (f : Finding) : Prop where
  /-- It begins where the run does. -/
  start_eq : f.start = p + run.1
  /-- It ends where the run does. -/
  stop_eq : f.stop = p + run.2
  /-- It suggests one space. -/
  suggestions_eq : f.suggestions = [[' ']]
  /-- It is between the tokens that the run stands between. -/
  isBetween : f.IsBetween tokens

theorem exists_report {s : Sentence} (h : IsTokenized s.start s.text s.tokens) {run : Nat × Nat}
    (hrun : IsRun s.text run.1 run.2) : ∃ f, report s run = .ok f ∧ Reports s.start s.tokens run f := by
  obtain ⟨front, a, b, back, htokens, ha, hb⟩ := exists_neighbours h hrun
  have hstops := mapM_stop h
  have haStop : a.stop = .ok (s.start + run.1) := ha ▸ h.stop_eq (by simp [htokens])
  have hcount : ((s.tokens.map fun k => k.piece.stop).filter (· ≤ s.start + run.1)).length =
      front.length + 1 := by
    rw [htokens] at h ⊢
    rw [← ha]
    exact length_filter_stop h
  have hfirst : s.tokens[front.length]? = some a := by rw [htokens]; simp
  have hsecond : s.tokens[front.length + 1]? = some b := by rw [htokens]; simp
  unfold report
  dsimp only
  rw [hstops]
  exact ⟨_, rfl, rfl, rfl, rfl, front.length, a, b, hfirst, hsecond, haStop, hb, congrArg Nat.cast hcount,
    congrArg Nat.cast hcount⟩

end Tokens

/-! ### One space in place of a run -/

/-- A run is one wherever the characters from before it to behind it come. -/
theorem IsRun.of_getElem? {u : Text} {d : Nat} (h : IsRun t first stop)
    (hsame : ∀ n, first ≤ n + 1 → n ≤ stop → u[n + d]? = t[n]?) : IsRun u (first + d) (stop + d) := by
  obtain ⟨hlength, hspaces, ⟨n, rfl, c, hc, hvisible⟩, c', hc', hvisible'⟩ := h
  refine ⟨by omega, fun m hle hlt => ?_, ⟨n + d, by omega, c, ?_, hvisible⟩, c', ?_, hvisible'⟩
  · obtain ⟨m, rfl⟩ := Nat.exists_eq_add_of_le' (show d ≤ m by omega)
    rw [hsame m (by omega) (by omega)]
    exact hspaces m (by omega) (by omega)
  · rw [hsame n (by omega) (by omega), hc]
  · rw [hsame stop (by omega) (Nat.le_refl _), hc']

/-- A text with one space in place of a stretch. -/
def collapse (run : Nat × Nat) (t : Text) : Text := t.take run.1 ++ ([' '] ++ t.drop run.2)

theorem getElem?_collapse (hfirst : first ≤ t.length) (hle : first < stop) :
    (∀ n, n < first → (collapse (first, stop) t)[n]? = t[n]?) ∧
    (collapse (first, stop) t)[first]? = some ' ' ∧
    ∀ n, first < n → (collapse (first, stop) t)[n]? = t[n + (stop - first - 1)]? := by
  have hlength : (t.take first).length = first := List.length_take_of_le hfirst
  unfold collapse
  dsimp only
  refine ⟨fun n hn => ?_, ?_, fun n hn => ?_⟩
  · rw [List.getElem?_append_left (by omega), List.getElem?_take_of_lt hn]
  · rw [List.getElem?_append_right (by omega), hlength, Nat.sub_self, List.singleton_append,
      List.getElem?_cons_zero]
  · obtain ⟨m, rfl⟩ := Nat.exists_eq_add_of_lt hn
    rw [List.getElem?_append_right (by omega), hlength, List.singleton_append,
      show first + m + 1 - first = m + 1 by omega, List.getElem?_cons_succ, List.getElem?_drop]
    congr 1
    omega

/-- One space in place of the last run leaves the runs before it, and no other. -/
theorem isRun_collapse_iff {run : Nat × Nat} (hrun : IsRun t run.1 run.2)
    (hlast : ∀ first stop, IsRun t first stop → stop ≤ run.2) :
    IsRun (collapse run t) first stop ↔ IsRun t first stop ∧ stop < run.1 := by
  obtain ⟨a, b⟩ := run
  dsimp only at hrun hlast ⊢
  have hlength := hrun.length
  obtain ⟨n, hn, c, hc, hbefore⟩ := hrun.follows
  have hlt : n < t.length := (List.getElem?_eq_some_iff.mp hc).1
  obtain ⟨hfront, hspace, hback⟩ := getElem?_collapse (show a ≤ t.length by omega) (show a < b by omega)
  constructor
  · intro h
    have hbounds := h.length
    have hstop : stop < a := by
      by_contra hnot
      -- the characters before and behind the space are visible, so the run begins behind them
      have hstopNe : stop ≠ a := by
        rintro rfl
        obtain ⟨c', hc', hvisible⟩ := h.visible
        obtain rfl := Option.some.inj (hspace.symm.trans hc')
        cases hvisible
      have hfirst : ¬ first ≤ n := fun hle => h.spaces.not_visible hle (by omega)
        ⟨c, by rw [hfront n (by omega), hc], hbefore⟩
      have hfirst' : ¬ (first ≤ a + 1 ∧ a + 1 < stop) := by
        rintro ⟨hle, hlt⟩
        obtain ⟨c', hc', hvisible⟩ := hrun.visible
        refine h.spaces.not_visible hle hlt ⟨c', ?_, hvisible⟩
        rw [hback (a + 1) (by omega), ← hc']
        congr 1
        omega
      have hfirstNe : first ≠ a + 1 := by omega
      have hmoved : IsRun t (first + (b - a - 1)) (stop + (b - a - 1)) :=
        h.of_getElem? fun m hle _ => (hback m (by omega)).symm
      have hle := hlast _ _ hmoved
      omega
    exact ⟨h.of_getElem? (d := 0) fun m _ hle => (hfront m (by omega)).symm, hstop⟩
  · rintro ⟨h, hlt⟩
    exact h.of_getElem? (d := 0) fun m _ hle => hfront m (by omega)

/-- One space in place of each of the last runs leaves the runs before them, and no other. -/
theorem isRun_foldr_collapse_iff {front back : List (Nat × Nat)}
    (hruns : ∀ first stop, (first, stop) ∈ front ++ back ↔ IsRun t first stop)
    (hpairwise : (front ++ back).Pairwise fun a b => a.2 < b.1) :
    IsRun (back.foldr collapse t) first stop ↔ (first, stop) ∈ front := by
  induction back generalizing front first stop with
  | nil => rw [List.foldr_nil, ← hruns, List.append_nil]
  | cons run back ih =>
    rw [List.append_cons] at hruns hpairwise
    have hrest : ∀ {first stop}, IsRun (back.foldr collapse t) first stop ↔ (first, stop) ∈ front ++ [run] :=
      ih hruns hpairwise
    have hbefore : ∀ r ∈ front, r.2 < run.1 := fun r hr =>
      (List.pairwise_append.mp (List.pairwise_append.mp hpairwise).1).2.2 r hr run (List.mem_singleton_self _)
    have hrun : IsRun (back.foldr collapse t) run.1 run.2 := hrest.mpr (by simp)
    have hlength := hrun.length
    rw [List.foldr_cons, isRun_collapse_iff hrun, hrest, List.mem_append, List.mem_singleton]
    · constructor
      · rintro ⟨hmem | rfl, hlt⟩
        · exact hmem
        · simp only at hlt hlength
          omega
      · exact fun hmem => ⟨.inl hmem, hbefore _ hmem⟩
    · intro first stop h
      rcases List.mem_append.mp (hrest.mp h) with hmem | hmem
      · have hlt := hbefore _ hmem
        simp only at hlt
        omega
      · rw [← List.mem_singleton.mp hmem]

/-- One space in place of each run leaves none. -/
theorem runs_foldr_collapse (t : Text) : runs ((runs t).foldr collapse t) = [] := by
  refine List.eq_nil_iff_forall_not_mem.mpr fun ⟨first, stop⟩ hmem => ?_
  have hruns : ∀ first stop, (first, stop) ∈ [] ++ runs t ↔ IsRun t first stop := fun _ _ => mem_runs_iff
  have hnone := (isRun_foldr_collapse_iff hruns (pairwise_runs t)).mp (mem_runs_iff.mp hmem)
  exact absurd hnone List.not_mem_nil

/-! ### Main statement -/

/-- Findings report the runs of a text at a position that is made of tokens. -/
structure ReportRuns (p : Int) (t : Text) (tokens : List Token) (found : List Finding) : Prop where
  /-- They report the runs and nothing else. -/
  reported_iff : ∀ start stop : Int, (∃ f ∈ found, f.start = start ∧ f.stop = stop) ↔
    ∃ first last : Nat, start = p + first ∧ stop = p + last ∧ IsRun t first last
  /-- They come in order, and no run comes twice. -/
  ordered : found.Pairwise fun f g => f.stop < g.start
  /-- Each is between the tokens that its run stands between. -/
  isBetween : ∀ f ∈ found, f.IsBetween tokens
  /-- Each suggests one space. -/
  suggestions_eq : ∀ f ∈ found, f.suggestions = [[' ']]

section Findings

variable {p : Int} {tokens : List Token} {found : List Finding}

theorem reportRuns_of_forall₂ (h : List.Forall₂ (Reports p tokens) (runs t) found) :
    ReportRuns p t tokens found := by
  have hplaces : (runs t).map (fun run => (p + (run.1 : Int), p + (run.2 : Int))) =
      found.map fun f => (f.start, f.stop) := by
    rw [← List.forall₂_eq_eq_eq, List.forall₂_map_left_iff, List.forall₂_map_right_iff]
    exact h.imp fun run f hf => by rw [hf.start_eq, hf.stop_eq]
  constructor
  · intro start stop
    have hmem : (∃ f ∈ found, f.start = start ∧ f.stop = stop) ↔
        (start, stop) ∈ found.map fun f => (f.start, f.stop) := by simp
    rw [hmem, ← hplaces, List.mem_map]
    constructor
    · rintro ⟨⟨first, last⟩, hrun, heq⟩
      obtain ⟨rfl, rfl⟩ := Prod.mk.inj heq
      exact ⟨first, last, rfl, rfl, mem_runs_iff.mp hrun⟩
    · rintro ⟨first, last, rfl, rfl, hrun⟩
      exact ⟨(first, last), mem_runs_iff.mpr hrun, rfl⟩
  · have hordered : (found.map fun f => (f.start, f.stop)).Pairwise fun a b => a.2 < b.1 := by
      rw [← hplaces, List.pairwise_map]
      exact (pairwise_runs t).imp fun hlt => by dsimp only; omega
    exact List.pairwise_map.mp hordered
  · intro f hf
    obtain ⟨run, -, hreports⟩ := exists_of_mem_forall₂ h hf
    exact hreports.isBetween
  · intro f hf
    obtain ⟨run, -, hreports⟩ := exists_of_mem_forall₂ h hf
    exact hreports.suggestions_eq

/-- The suggestions of findings put one space in place of each of their runs. -/
theorem replaceAllIn_eq {found : List Finding} {rs : List (Nat × Nat)}
    (h : List.Forall₂ (Reports p tokens) rs found) (t : Text) :
    Finding.replaceAllIn p found t = rs.foldr collapse t := by
  unfold Finding.replaceAllIn
  induction h with
  | nil => rfl
  | @cons run f rs found hf _ ih =>
    have hstart : (f.start - p).toNat = run.1 := by rw [hf.start_eq]; omega
    have hstop : (f.stop - p).toNat = run.2 := by rw [hf.stop_eq]; omega
    rw [List.foldr_cons, List.foldr_cons, ih, Finding.replaceIn, hstart, hstop, hf.suggestions_eq]
    rfl

end Findings

/-- **Runs of spaces.**  In a text with its tokens, wherever it stands, the runs of two or more spaces between
visible characters are reported, each between the tokens that it stands between.  With one space in place of
each of them nothing is reported. -/
theorem findings_spaces (t : Text) (p : Int) : ∃ found, findings (t.sentenceAt p) = .ok found ∧
    ReportRuns p t (t.tokens p) found ∧
    ∀ q : Int, findings ((Finding.replaceAllIn p found t).sentenceAt q) = .ok [] := by
  have htokens : IsTokenized p t (t.tokens p) := Text.tokensFrom_isTokenized p false true t
  obtain ⟨found, hfound, hreports⟩ := exists_mapM_ok fun run (hrun : run ∈ runs t) =>
    exists_report (s := t.sentenceAt p) htokens (mem_runs_iff.mp hrun)
  refine ⟨found, hfound, reportRuns_of_forall₂ hreports, fun q => ?_⟩
  have hnone : runs (Finding.replaceAllIn p found t) = [] := by
    rw [replaceAllIn_eq (p := p) hreports]
    exact runs_foldr_collapse t
  rw [findings, Text.sentenceAt, hnone]
  rfl

end Spacing

end Copyedit
