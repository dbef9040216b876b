import Copyedit.Text.LetterCase

/-!
# Splitting a text into sentences

A sentence ends where a full stop, an exclamation mark or a question mark, with any closing quotes and
brackets, is followed by a blank, unless the next word starts in lower case; and it ends at a blank
line. Sentences come without the blanks around them, and with their positions.
-/

namespace Copyedit

/-- The marks that end a sentence. -/
def isTerminal (c : Char) : Bool := c == '.' || c == '!' || c == '?'

/-- Quotes and brackets that may close after the mark. -/
def isCloser (c : Char) : Bool :=
  c == '"' || c == '\'' || c == '”' || c == '’' || c == ')' || c == ']'

/-- Blanks within a line. -/
def isLineBlank (c : Char) : Bool := c == ' ' || c == '\t'

namespace Text

/-- Whether the first character is lower case. -/
def startsLower : Text → Bool
  | [] => false
  | c :: _ => isLower c

/-- Whether the first character is blank. -/
def startsBlank : Text → Bool
  | [] => false
  | c :: _ => isBlank c

/-- The text after a line end, blanks and another line end. -/
def afterBlankLine? : Text → Option Text
  | '\n' :: rest => match rest.dropWhile isLineBlank with
    | '\n' :: after => some after
    | _ => none
  | _ => none

/-- The text after terminal marks and closers that end a sentence. -/
def afterTerminal? : Text → Option Text
  | [] => none
  | c :: rest =>
    if isTerminal c then
      let after : Text := (rest.dropWhile isTerminal).dropWhile isCloser
      if after.startsBlank && !after.trimStart.startsLower then some after else none
    else none

/-- The text after a sentence boundary at its start. -/
def afterBoundary? (t : Text) : Option Text := t.afterBlankLine?.orElse fun _ => t.afterTerminal?

theorem length_dropWhile_le (p : Char → Bool) (t : Text) :
    (t.dropWhile p).length ≤ t.length := (List.dropWhile_suffix p).length_le

theorem afterBoundary?_length {t after : Text} (h : t.afterBoundary? = some after) :
    after.length < t.length := by
  unfold afterBoundary? at h
  cases hb : t.afterBlankLine? with
  | some x =>
    rw [hb] at h
    simp only [Option.orElse_some, Option.some.injEq] at h
    subst h
    unfold afterBlankLine? at hb
    split at hb
    · rename_i rest
      split at hb
      · rename_i after' heq
        simp only [Option.some.injEq] at hb
        subst hb
        have := length_dropWhile_le isLineBlank rest
        rw [heq] at this
        simp only [List.length_cons] at this ⊢
        omega
      · simp at hb
    · simp at hb
  | none =>
    rw [hb] at h
    simp only [Option.orElse_none] at h
    unfold afterTerminal? at h
    split at h
    · simp at h
    · rename_i c rest
      split at h
      · simp only at h
        split at h
        · simp only [Option.some.injEq] at h
          subst h
          have h1 := length_dropWhile_le isTerminal rest
          have h2 := length_dropWhile_le isCloser (rest.dropWhile isTerminal)
          simp only [List.length_cons]
          omega
        · simp at h
      · simp at h

/-- The stretches between sentence boundaries, each with its boundary. `seen` is the stretch under way,
in reverse. Together they are the whole text. -/
def stretches (seen : Text) (t : Text) : List Text :=
  match t with
  | [] => [seen.reverse]
  | c :: rest =>
    match _h : afterBoundary? (c :: rest) with
    | some after =>
      (seen.reverse ++ (c :: rest).take ((c :: rest).length - after.length)) :: stretches [] after
    | none => stretches (c :: seen) rest
termination_by t.length
decreasing_by
  · exact afterBoundary?_length ‹_›
  · simp

/-- Trims stretches of a text that start at `position`, and drops those that are blank. -/
def trimmedFrom (position : Nat) : List Text → List (Nat × Text)
  | [] => []
  | s :: rest =>
    let after := trimmedFrom (position + s.length) rest
    if s.trim.isEmpty then after
    else (position + (s.length - s.trimStart.length), s.trim) :: after

/-- The sentences of a text with their positions. -/
def sentences (t : Text) : List (Nat × Text) := trimmedFrom 0 (stretches [] t)

end Text

end Copyedit
