import Copyedit.Proofs.Composition
import Copyedit.Proofs.Outcome
import Copyedit.Proofs.Ranking.Ranker
import Copyedit.Proofs.Spelling.MultiSpeller
import Copyedit.Rules.Spelling

/-!
# Words of one composed form

The spelling rule judges a word, and searches for corrections, in its composed form.  Whether a word has
letters at all can be told from that form as well (`Text.any_isLetter_compose`), and its neighbours are all
that ranking looks at.  So what the rule reports of a token hardly depends on how the word is written: two
sentences that differ in one token alone, with one composed form there, have that token reported in both or
in neither, with the same suggestions (`findings_composed`).

Two things do depend on it.  Addresses and ignored words are looked for in the word as it is written, so
that of two forms one may be passed over (`exists_form_reported`).  And a word that is prohibited as it is
written is quoted in the message.
-/

namespace Copyedit

/-- The token with another word in its place. -/
def Token.withText (t : Token) (w : Text) : Token := { t with text := some w }

namespace SpellingRule

variable {S : Type} {r : SpellingRule S} {s s' : Sentence} {t : Token} {w w' : Text} {i : Nat}

/-! ### One token -/

/-- Whether a word is passed over for how it is written: as an address or an ignored word. -/
def passesOver (r : SpellingRule S) (w : Text) : Bool :=
  w.isWebAddress || w.isMailAddress || isListed r.options.ignored w

/-- Whether a token with a word is reported. -/
def reports (r : SpellingRule S) (t : Token) (w : Text) : Bool :=
  w.any isLetter && !r.passesOver w && !(r.options.ignoresTagged && t.isTagged) && r.isMisspelled w

/-- What is reported of a token with a word. -/
def report (r : SpellingRule S) (t : Token) (w : Text) (i : Nat) (suggestions : List Text) : Finding where
  rule := r.options.id
  message := r.messageFor w
  start := t.start
  stop := t.start + w.length
  suggestions
  shortMessage := .text "Spelling mistake"
  firstToken := i
  endToken := i + 1

theorem tokenFindings_eq [LT S] [DecidableLT S] (hw : t.text = some w) :
    r.tokenFindings s t i = if r.reports t w then
      (r.suggestions w s.words i).map fun suggestions => [r.report t w i suggestions] else .ok [] := by
  have hskips : r.skips t = .ok (!(w.any isLetter && !r.passesOver w &&
      !(r.options.ignoresTagged && t.isTagged))) := by
    unfold skips Token.characters
    rw [hw]
    refine congrArg Except.ok ?_
    simp [passesOver, Bool.not_and, Bool.or_assoc]
  have hcharacters : t.characters = .ok w := by
    rw [Token.characters, hw]
  unfold tokenFindings reports
  rw [hcharacters, hskips, Token.stop_of_text hw]
  generalize (w.any isLetter && !r.passesOver w && !(r.options.ignoresTagged && t.isTagged)) = isJudged
  show (if (!isJudged || !r.isMisspelled w) = true then Except.ok []
    else (r.suggestions w s.words i).map fun suggestions => [r.report t w i suggestions]) = _
  cases isJudged <;> cases r.isMisspelled w <;> rfl

/-- What is found at a token is what the token reports. -/
theorem findings_at [LT S] [DecidableLT S] {found : List Finding} (h : r.findings s = .ok found)
    (ht : s.tokens[i]? = some t) :
    r.tokenFindings s t i = .ok (found.filter fun f => f.firstToken = (i : Int)) := by
  obtain ⟨parts, hparts, rfl⟩ := map_ok_iff.mp h
  have hkey : ∀ (t : Token) (n : Nat) (part : List Finding), r.tokenFindings s t n = .ok part →
      ∀ f ∈ part, f.firstToken = n := by
    intro t n part hpart f hf
    cases hw : t.text with
    | none =>
      have hnone : t.characters = .error (.kind (.notIterable "NoneType")) := by
        rw [Token.characters, hw]
      rw [tokenFindings, hnone] at hpart
      cases hpart
    | some w =>
      rw [tokenFindings_eq hw] at hpart
      split at hpart
      · obtain ⟨suggestions, -, rfl⟩ := map_ok_iff.mp hpart
        rw [List.mem_singleton.mp hf]
        rfl
      · rw [← Except.ok.inj hpart] at hf
        exact absurd hf List.not_mem_nil
  have hall := filter_flatten_of_mapM Finding.firstToken hkey hparts ht
  rwa [Nat.zero_add] at hall

/-! ### One composed form -/

section Composed

variable (hcompose : w.compose = w'.compose)

include hcompose

theorem any_isLetter_congr : w.any isLetter = w'.any isLetter := by
  rw [← Text.any_isLetter_compose w, hcompose, Text.any_isLetter_compose]

theorem isMisspelled_congr : r.isMisspelled w = r.isMisspelled w' := by
  unfold isMisspelled
  rw [hcompose]

theorem reports_congr (hpasses : r.passesOver w = r.passesOver w') :
    r.reports t w = r.reports t w' := by
  unfold reports
  rw [any_isLetter_congr hcompose, hpasses, isMisspelled_congr hcompose]

/-- Suggestions for a word depend on its composed form and its neighbours. -/
theorem suggestions_congr [LT S] [DecidableLT S] {context context' : List (Option Text)}
    (hlength : context.length = context'.length) (hbefore : context.take i = context'.take i)
    (hafter : context.drop (i + 1) = context'.drop (i + 1)) :
    r.suggestions w context i = r.suggestions w' context' i := by
  have hcandidates : r.candidates w = r.candidates w' := by
    unfold candidates
    rw [hcompose]
  have hempty : context.isEmpty = context'.isEmpty := by
    rw [Bool.eq_iff_iff, List.isEmpty_iff_length_eq_zero, List.isEmpty_iff_length_eq_zero, hlength]
  have hrank : ∀ found, r.ranker.rankCandidates found context i =
      r.ranker.rankCandidates found context' i :=
    fun _ => Ranking.Ranker.rankCandidates_congr hbefore hafter
  unfold suggestions
  simp only [hcandidates, hempty, hrank]

end Composed

/-! ### Messages -/

/-- Messages about two words are the same iff the words are, or neither is prohibited. -/
theorem messageFor_eq_iff : r.messageFor w = r.messageFor w' ↔
    w = w' ∨ r.isProhibited w = false ∧ r.isProhibited w' = false := by
  have hquote : ∀ w : Text, '\'' :: w ++ "' should not be used.".toList ≠
      "Possible spelling mistake found.".toList := by
    intro w h
    exact absurd (List.cons.inj h).1 (by decide)
  unfold messageFor
  constructor
  · intro h
    split at h <;> split at h
    · exact .inl (List.cons.inj (List.append_cancel_right h)).2
    · exact absurd h (hquote w)
    · exact absurd h.symm (hquote w')
    · rename_i hw hw'
      exact .inr ⟨Bool.eq_false_iff.mpr hw, Bool.eq_false_iff.mpr hw'⟩
  · rintro (rfl | ⟨hw, hw'⟩)
    · rfl
    · simp [hw, hw']

/-! ### Two sentences -/

/-- Whether two sentences differ in the word of one token alone. -/
structure DifferAt (s s' : Sentence) (i : Nat) (t : Token) (w w' : Text) : Prop where
  /-- The token in the first sentence. -/
  getElem? : s.tokens[i]? = some t
  /-- Its word there. -/
  text : t.text = some w
  /-- The second sentence has another word in its place. -/
  tokens_eq : s'.tokens = s.tokens.set i (t.withText w')

namespace DifferAt

theorem words_eq (h : DifferAt s s' i t w w') : s'.words = s.words.set i (some w') := by
  rw [Sentence.words, Sentence.words, h.tokens_eq, List.map_set]
  rfl

theorem getElem?_right (h : DifferAt s s' i t w w') : s'.tokens[i]? = some (t.withText w') := by
  rw [h.tokens_eq, List.getElem?_set_self (List.getElem?_eq_some_iff.mp h.getElem?).1]

/-- With words of one composed form that are passed over alike, the second sentence reports the token
as the first one does, but for the word in the message. -/
theorem tokenFindings_right [LT S] [DecidableLT S] (h : DifferAt s s' i t w w')
    (hcompose : w.compose = w'.compose) (hpasses : r.passesOver w = r.passesOver w') :
    r.tokenFindings s' (t.withText w') i = if r.reports t w = true
      then (r.suggestions w s.words i).map fun suggestions =>
        [r.report (t.withText w') w' i suggestions]
      else .ok [] := by
  have hreports : r.reports t w = r.reports (t.withText w') w' :=
    reports_congr hcompose hpasses
  have hsuggestions : r.suggestions w s.words i = r.suggestions w' s'.words i := by
    refine suggestions_congr hcompose ?_ ?_ ?_
    · rw [h.words_eq, List.length_set]
    · rw [h.words_eq, List.take_set_of_le (Nat.le_refl i)]
    · rw [h.words_eq, List.drop_set_of_lt (Nat.lt_succ_self i)]
  rw [tokenFindings_eq rfl, hreports, hsuggestions]

end DifferAt

/-- **Words of one composed form.**  Let two sentences differ in the word of one token alone, and let the
two words have one composed form, and be passed over alike.  Then the rule reports the token in both
sentences or in neither, with the same suggestions, and it fails there alike.  The messages are the same
too, unless the words are not and one of them is prohibited as it is written. -/
theorem findings_composed [LT S] [DecidableLT S] (r : SpellingRule S) (h : DifferAt s s' i t w w')
    (hcompose : w.compose = w'.compose) (hpasses : r.passesOver w = r.passesOver w') :
    (r.tokenFindings s t i).map (List.map (·.suggestions)) =
      (r.tokenFindings s' (t.withText w') i).map (List.map (·.suggestions)) ∧
    ∀ found found', r.findings s = .ok found → r.findings s' = .ok found' →
      List.Forall₂ (fun f f' => f.suggestions = f'.suggestions ∧
          (f.message = f'.message ↔ w = w' ∨ r.isProhibited w = false ∧ r.isProhibited w' = false))
        (found.filter fun f => f.firstToken = (i : Int))
        (found'.filter fun f => f.firstToken = (i : Int)) := by
  have hleft := tokenFindings_eq (r := r) (s := s) (i := i) h.text
  have hright := h.tokenFindings_right hcompose hpasses
  constructor
  · rw [hleft, hright]
    split
    · cases r.suggestions w s.words i <;> rfl
    · rfl
  · intro found found' hfound hfound'
    have hat := findings_at hfound h.getElem?
    have hat' := findings_at hfound' h.getElem?_right
    rw [hleft] at hat
    rw [hright] at hat'
    split at hat
    · rename_i hreported
      rw [if_pos hreported] at hat'
      obtain ⟨suggestions, hsome, hat⟩ := map_ok_iff.mp hat
      obtain ⟨suggestions', hsome', hat'⟩ := map_ok_iff.mp hat'
      rw [hsome] at hsome'
      obtain rfl := Except.ok.inj hsome'
      rw [← hat, ← hat']
      exact .cons ⟨rfl, messageFor_eq_iff⟩ .nil
    · rename_i hnot
      rw [if_neg hnot] at hat'
      rw [← Except.ok.inj hat, ← Except.ok.inj hat']
      exact .nil

/-! ### One word in two forms -/

section Examples

/-- A word with a letter and its accent in one character. -/
def cafe : Text := "caf\u00e9".toList

/-- The same with two characters for them. -/
def cafeInParts : Text := "cafe\u0301".toList

/-- A list of one word. -/
def oneCat : Spelling.Dictionary := ⟨0, .words (.ofEntries [⟨"cat".toList, []⟩])⟩

/-- A rule over it that ignores some words and prohibits others. -/
def judging (ignored prohibited : List Text) : SpellingRule Nat where
  options := { distances := [1], ignored, prohibited }
  nearest := ⟨1, [Spelling.MultiSpeller.englishOver oneCat 0]⟩
  wider := []
  ranker := ⟨none, 2⟩

/-- A sentence of one word. -/
def sentenceOf (w : Text) : Sentence := { text := w, tokens := [{ text := some w }] }

theorem differAt_sentenceOf (w w' : Text) :
    DifferAt (sentenceOf w) (sentenceOf w') 0 { text := some w } w w' :=
  ⟨rfl, rfl, rfl⟩

/-- Without a model, the rule does not fail. -/
theorem exists_findings_sentenceOf [LT S] [DecidableLT S] (r : SpellingRule S)
    (h : r.ranker.model = none) (w : Text) : ∃ suggestions, r.findings (sentenceOf w) =
      .ok (if r.reports { text := some w } w then [r.report { text := some w } w 0 suggestions] else []) := by
  have hok : ∃ suggestions, r.suggestions w (sentenceOf w).words (0 : Nat) = .ok suggestions := by
    unfold suggestions Ranking.Ranker.rankCandidates Ranking.Ranker.isPassThrough
    rw [h]
    exact ⟨_, rfl⟩
  obtain ⟨suggestions, hok⟩ := hok
  have htoken := tokenFindings_eq (r := r) (s := sentenceOf w) (t := { text := some w }) (i := 0) rfl
  rw [hok] at htoken
  refine ⟨suggestions, ?_⟩
  unfold findings
  simp only [sentenceOf, List.zipIdx_cons, List.zipIdx_nil, List.mapM_cons, List.mapM_nil]
  rw [← sentenceOf, htoken]
  split <;> rfl

/-- A rule that prohibits "café" reports both forms, and quotes the one that is written as it lists it. -/
theorem findings_cafe : cafe.compose = cafeInParts.compose ∧
    (judging [] [cafe]).passesOver cafe = (judging [] [cafe]).passesOver cafeInParts ∧
    ∃ f f', (judging [] [cafe]).findings (sentenceOf cafe) = .ok [f] ∧
      (judging [] [cafe]).findings (sentenceOf cafeInParts) = .ok [f'] ∧
      f.suggestions = f'.suggestions ∧ f.message ≠ f'.message := by
  have hcompose : cafe.compose = cafeInParts.compose := by decide +kernel
  have hpasses : (judging [] [cafe]).passesOver cafe = (judging [] [cafe]).passesOver cafeInParts := by
    decide +kernel
  have hreported : (judging [] [cafe]).reports { text := some cafe } cafe = true := by decide +kernel
  have hreported' : (judging [] [cafe]).reports { text := some cafeInParts } cafeInParts = true := by
    decide +kernel
  obtain ⟨suggestions, hfound⟩ := exists_findings_sentenceOf (judging [] [cafe]) rfl cafe
  obtain ⟨suggestions', hfound'⟩ := exists_findings_sentenceOf (judging [] [cafe]) rfl cafeInParts
  rw [if_pos hreported] at hfound
  rw [if_pos hreported'] at hfound'
  have hsame := (findings_composed (judging [] [cafe]) (differAt_sentenceOf cafe cafeInParts) hcompose
    hpasses).2 _ _ hfound hfound'
  obtain ⟨hsuggestions, hmessage⟩ := (List.forall₂_cons.mp hsame).1
  refine ⟨hcompose, hpasses, _, _, hfound, hfound', hsuggestions, ?_⟩
  rw [ne_eq, hmessage]
  decide +kernel

/-- Of two sentences with one composed form, a rule may report one alone: "café" is ignored only in the form
in which it is listed. -/
theorem exists_form_reported : ∃ (dictionaries : List Spelling.Dictionary) (ranker : Ranking.Ranker Nat)
    (o : SpellingOptions) (r : SpellingRule Nat) (s s' : Sentence) (t : Token) (w w' : Text) (f : Finding),
    make dictionaries ranker o = .ok r ∧ DifferAt s s' 0 t w w' ∧ w.compose = w'.compose ∧
      r.findings s = .ok [] ∧ r.findings s' = .ok [f] := by
  have hcompose : cafe.compose = cafeInParts.compose := by decide +kernel
  have hnot : ¬ (judging [cafe] []).reports { text := some cafe } cafe = true := by decide +kernel
  have hreported : (judging [cafe] []).reports { text := some cafeInParts } cafeInParts = true := by
    decide +kernel
  obtain ⟨suggestions, hfound⟩ := exists_findings_sentenceOf (judging [cafe] []) rfl cafe
  obtain ⟨suggestions', hfound'⟩ := exists_findings_sentenceOf (judging [cafe] []) rfl cafeInParts
  rw [if_neg hnot] at hfound
  rw [if_pos hreported] at hfound'
  exact ⟨[oneCat], (judging [cafe] []).ranker, (judging [cafe] []).options, judging [cafe] [], _, _, _,
    _, _, _, rfl, differAt_sentenceOf cafe cafeInParts, hcompose, hfound, hfound'⟩

end Examples

end SpellingRule

end Copyedit
