import Copyedit.Proofs.Pattern.Shift
import Copyedit.Proofs.Rules.Identity

/-!
# Rules on sentences elsewhere in a document

Wherever a sentence stands, a rule of the library on sentences finds the same in it, at positions that are
moved with the sentence, and it fails if it does elsewhere (`Rule.findings_shift`).
-/

namespace Copyedit

variable {d : Int}

/-! ### One token after the other -/

/-- Rules that look at one token after the other move with the sentence if they do at each token. -/
theorem shift_of_forall_token {run run' : Token → Nat → Except Error (List Finding)}
    (hrun : ∀ k i, run' (k.shift d) i = (run k i).map (List.map (Finding.shift d)))
    (tokens : List Token) :
    (((tokens.map (Token.shift d)).zipIdx.mapM fun (k, i) => run' k i) >>=
        fun parts => pure parts.flatten) =
      ((tokens.zipIdx.mapM fun (k, i) => run k i) >>= fun parts => pure parts.flatten).map
        (List.map (Finding.shift d)) := by
  have hsteps : ((fun e : Token × Nat => run' e.1 e.2) ∘ Prod.map (Token.shift d) id) =
      fun e => (run e.1 e.2).map (List.map (Finding.shift d)) := funext fun e => hrun e.1 e.2
  rw [List.zipIdx_map, List.mapM_map, hsteps, mapM_map_eq, bind_map_eq, map_bind_eq]
  refine bind_congr fun parts => ?_
  rw [← List.map_flatten]
  rfl

theorem ReplacementRule.findings_shift (r : ReplacementRule) (s : Sentence) :
    r.findings (s.shift d) = (r.findings s).map (List.map (Finding.shift d)) := by
  refine shift_of_forall_token (fun k i => ?_) s.tokens
  unfold tokenFindings
  rw [Token.text_shift]
  cases k.text with
  | none => rfl
  | some word =>
    dsimp only
    split
    · rfl
    · rw [map_bind_eq]
      refine bind_congr fun message => ?_
      rw [Token.stop_shift, bind_map_eq, map_bind_eq]
      rfl

theorem SpellingRule.findings_shift {S : Type} [LT S] [DecidableLT S] (r : SpellingRule S)
    (s : Sentence) : r.findings (s.shift d) = (r.findings s).map (List.map (Finding.shift d)) := by
  refine shift_of_forall_token (fun k i => ?_) s.tokens
  have hcharacters : (k.shift d).characters = k.characters := rfl
  have hskips : r.skips (k.shift d) = r.skips k := rfl
  unfold tokenFindings
  rw [hcharacters, hskips, Sentence.words_shift, map_bind_eq]
  refine bind_congr fun word => ?_
  rw [map_bind_eq]
  refine bind_congr fun isSkipped => ?_
  split
  · rfl
  · rw [Token.stop_shift, bind_map_eq, map_bind_eq]
    refine bind_congr fun stop => ?_
    rw [map_bind_eq]
    rfl

/-! ### Neighbours -/

namespace RepetitionRule

theorem report_shift (index : Nat) (previous token : Token) :
    report index (previous.shift d) (token.shift d) =
      (report index previous token).map (Finding.shift d) := by
  unfold report
  rw [Token.stop_shift, bind_map_eq, map_bind_eq]
  rfl

theorem findingsFrom_shift (r : RepetitionRule) (index : Nat) (tokens : List Token) :
    r.findingsFrom index (tokens.map (Token.shift d)) =
      (r.findingsFrom index tokens).map (List.map (Finding.shift d)) := by
  fun_induction findingsFrom r index tokens with
  | case1 index previous token rest ihRest ihTail =>
    have hrepeat : r.isRepeat (previous.shift d) (token.shift d) = r.isRepeat previous token := rfl
    rw [List.map_cons, List.map_cons, findingsFrom, hrepeat, report_shift, ihRest, map_bind_eq]
    refine bind_congr fun isRepeat => ?_
    split
    · rw [bind_map_eq, map_bind_eq]
      refine bind_congr fun first => ?_
      rw [bind_map_eq, map_bind_eq]
      rfl
    · exact ihTail
  | case2 tokens index hshort =>
    -- fewer than two tokens are fewer than two elsewhere
    match tokens with
    | [] => rfl
    | [token] => rfl
    | previous :: token :: rest => exact absurd rfl (hshort previous token rest)

theorem findings_shift (r : RepetitionRule) (s : Sentence) :
    r.findings (s.shift d) = (r.findings s).map (List.map (Finding.shift d)) :=
  r.findingsFrom_shift 0 s.tokens

end RepetitionRule

/-! ### Spaces -/

namespace Spacing

theorem mapM_stop_shift (tokens : List Token) :
    (tokens.map (Token.shift d)).mapM Token.stop = (tokens.mapM Token.stop).map (List.map (· + d)) := by
  rw [List.mapM_map, ← mapM_map_eq]
  exact congrArg (fun f => tokens.mapM f) (funext fun k => Token.stop_shift)

/-- As many tokens end before a run of spaces. -/
theorem report_shift (s : Sentence) (run : Nat × Nat) :
    report (s.shift d) run = (report s run).map (Finding.shift d) := by
  unfold report
  dsimp only [Sentence.shift]
  rw [mapM_stop_shift, bind_map_eq, map_bind_eq]
  refine bind_congr fun stops => ?_
  have hbefore : ((stops.map (· + d)).filter fun stop => stop ≤ s.start + d + run.1).length =
      (stops.filter fun stop => stop ≤ s.start + run.1).length := by
    rw [List.filter_map, List.length_map]
    refine congrArg List.length (List.filter_congr fun stop _ => ?_)
    refine decide_eq_decide.mpr ?_
    change stop + d ≤ s.start + d + run.1 ↔ stop ≤ s.start + run.1
    omega
  rw [hbefore]
  have hstart : s.start + d + run.1 = s.start + run.1 + d := by omega
  have hstop : s.start + d + run.2 = s.start + run.2 + d := by omega
  rw [hstart, hstop]
  rfl

theorem findings_shift (s : Sentence) :
    findings (s.shift d) = (findings s).map (List.map (Finding.shift d)) := by
  unfold findings
  rw [← mapM_map_eq]
  exact congrArg (fun f => (runs s.text).mapM f) (funext fun run => report_shift s run)

end Spacing

/-! ### Long sentences -/

theorem LongSentence.findings_shift (l : WordLimit) (s : Sentence) :
    findings l (s.shift d) = (findings l s).map (List.map (Finding.shift d)) := by
  have hwords : (s.tokens.map (Token.shift d)).mapM isWord = s.tokens.mapM isWord :=
    List.mapM_map
  unfold findings
  dsimp only [Sentence.shift]
  rw [hwords, map_bind_eq, List.head?_map, List.getLast?_map, List.length_map]
  refine bind_congr fun areWords => ?_
  cases s.tokens.head? with
  | none => rfl
  | some first =>
    cases s.tokens.getLast? with
    | none => rfl
    | some last =>
      dsimp only [Option.map_some]
      split
      · rw [Token.stop_shift, bind_map_eq, map_bind_eq]
        rfl
      · rfl

/-! ### The rules of the library -/

/-- What a rule of the library finds on a sentence moves with the sentence. -/
theorem Rule.findings_shift {r : Rule} (hown : r.isOwn = true) (hlevel : r.isTextLevel = false)
    (s : Sentence) : r.findings (s.shift d) = (r.findings s).map (List.map (Finding.shift d)) := by
  cases r with
  | pattern r => exact r.findings_shift s.tokens
  | replacement r => exact r.findings_shift s
  | spelling r => exact r.findings_shift s
  | repetition r => exact r.findings_shift s
  | spacing => exact Spacing.findings_shift s
  | longSentence l => exact LongSentence.findings_shift l s
  | longParagraph l => cases hlevel
  | foreign r => cases hown

end Copyedit
