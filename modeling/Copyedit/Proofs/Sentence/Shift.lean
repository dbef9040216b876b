import Copyedit.Proofs.Outcome
import Copyedit.Finding
import Copyedit.Sentence.Tokenize
import Copyedit.Tagging

/-!
# Sentences elsewhere in a document

The same sentence at another position has the same tokens, with other positions: tokenizing commutes with
moving (`Text.tokens_shift`), and so does tagging by a lexicon (`Lexicon.tag_shift`).  What a token says of itself other
than its position is left alone, so only `Token.stop` has to be followed through.
-/

namespace Copyedit

/-- The token `d` characters further on. -/
def Token.shift (d : Int) (k : Token) : Token := { k with start := k.start + d }

/-- The sentence `d` characters further on. -/
def Sentence.shift (d : Int) (s : Sentence) : Sentence where
  text := s.text
  tokens := s.tokens.map (Token.shift d)
  start := s.start + d

/-- The finding `d` characters further on; all that it says is the same. -/
def Finding.shift (d : Int) (f : Finding) : Finding :=
  { f with start := f.start + d, stop := f.stop + d }

variable {d : Int}

/-! ### Tokens -/

namespace Token

variable {k : Token}

@[simp] theorem text_shift : (k.shift d).text = k.text := rfl

@[simp] theorem spaceBefore_shift : (k.shift d).spaceBefore = k.spaceBefore := rfl

@[simp] theorem start_shift : (k.shift d).start = k.start + d := rfl

theorem stop_shift : (k.shift d).stop = k.stop.map (· + d) := by
  unfold stop
  rw [text_shift]
  cases k.text with
  | none => rfl
  | some text =>
    dsimp only [Except.map]
    rw [start_shift, Int.add_right_comm]

end Token

@[simp] theorem Sentence.words_shift (s : Sentence) : (s.shift d).words = s.words := by
  unfold words shift
  rw [List.map_map]
  rfl

/-- Joined again, the tokens give the same text. -/
theorem surfaceText_shift (tokens : List Token) :
    surfaceText (tokens.map (Token.shift d)) = surfaceText tokens := by
  cases tokens with
  | nil => rfl
  | cons first rest =>
    rw [List.map_cons]
    unfold surfaceText
    dsimp only
    rw [List.flatMap_map]
    rfl

/-! ### Tokenizing and tagging -/

theorem Text.tokensFrom_shift (d p : Int) (spaced first : Bool) (t : Text) :
    Text.tokensFrom (p + d) spaced first t = (Text.tokensFrom p spaced first t).map (Token.shift d) := by
  fun_induction Text.tokensFrom p spaced first t with
  | case1 => rw [Text.tokensFrom, List.map_nil]
  | case2 p spaced first c rest hblank ih =>
    rw [Text.tokensFrom, if_pos hblank, ← ih, Int.add_right_comm]
  | case3 p spaced first c rest hblank n ih =>
    rw [Text.tokensFrom, if_neg hblank, List.map_cons, ← ih, Int.add_right_comm p]
    rfl

/-- The tokens of a sentence are the same wherever it stands. -/
theorem Text.tokens_shift (t : Text) (p d : Int) :
    t.tokens (p + d) = (t.tokens p).map (Token.shift d) :=
  Text.tokensFrom_shift d p false true t

theorem Lexicon.tag_shift (l : Lexicon) (tokens : List Token) :
    l.tag (tokens.map (Token.shift d)) = (l.tag tokens).map (Token.shift d) := by
  unfold tag
  rw [List.map_map, List.map_map]
  rfl

end Copyedit
