import Copyedit.Regex.Expr
import Copyedit.Text.LetterCase
import Copyedit.Text.Numerals

/-!
# Matching regular expressions

The matcher walks the tree of an expression with a continuation for what comes after it, so that every
choice is undone when the rest of the expression fails. A repetition stops when a round consumes
nothing. Case is ignored by comparing lower-case counterparts, together with the letters that share
their upper-case form; a set disregards case only if one of its members calls for it.
-/

namespace Copyedit.Regex

/-! ### Single characters -/

/-- The lower-case counterpart under the flags. -/
def lowerUnder (ascii : Bool) (c : Char) : Char :=
  if ascii && 128 ≤ c.toNat then c else lowerChar c

/-- Whether a code point is a letter with a counterpart of the other case. -/
def hasOtherCase (ascii : Bool) (n : Nat) : Bool :=
  let c := Char.ofNat n
  if ascii then isAsciiLetter c else lowerChar c ≠ c || upperOf c ≠ [c]

/-- Whether some code point from `first` to `last` is a letter with a counterpart of the other case. -/
def meetsOtherCase (ascii : Bool) (first last : Nat) : Bool :=
  let overlaps (low high : Nat) : Bool := first ≤ high && low ≤ last
  overlaps 'A'.toNat 'Z'.toNat || overlaps 'a'.toNat 'z'.toNat ||
    (!ascii && (overlaps 'İ'.toNat 'İ'.toNat || toLowerRuns.any (·.run.meets first last) ||
      toUpperRuns.any (·.run.meets first last) || toUpperLong.any fun e => overlaps e.1 e.1))

/-- Whether two letters in lower case are the same or share their upper-case form. -/
def sameLow (ascii : Bool) (low wanted : Char) : Bool :=
  low == wanted || (!ascii && (lookalikes wanted).contains low)

/-- Whether the code point `n` stands for the character `c` regardless of case. -/
def sameLetter (ascii : Bool) (n : Nat) (c : Char) : Bool :=
  if hasOtherCase ascii n then
    sameLow ascii (lowerUnder ascii c) (lowerUnder ascii (Char.ofNat n))
  else c.toNat == n

/-- Whether a character is in a named class. -/
def CharClass.holds (k : CharClass) (ascii : Bool) (c : Char) : Bool :=
  if ascii && 128 ≤ c.toNat then false
  else match k with
    | .digit => isDecimal c
    | .blank => if ascii then isBlank c && !(28 ≤ c.toNat && c.toNat ≤ 31) else isBlank c
    | .word => isWordChar c

/-- The code points with the lower-case counterpart `low`. -/
def lowerSources (ascii : Bool) (low : Char) : List Nat :=
  low.toNat ::
    ((if 'a' ≤ low && low ≤ 'z' then [low.toNat - 32] else []) ++
      if ascii then []
      else (if low = 'i' then [0x130] else []) ++ toLowerRuns.filterMap (·.source? low.toNat))

/-- The last code point of the basic plane. -/
def basicPlaneEnd : Nat := 0xffff

/-- Whether a range holds a letter, given in lower case, or one that counts as the same. In the basic plane
the lower-case counterparts of the range count; beyond it, the letter must lie in the range in one case
or the other. -/
def rangeHoldsLow (ascii : Bool) (first last : Nat) (low : Char) : Bool :=
  let within (n : Nat) : Bool := first ≤ n && n ≤ last
  let inBasicPlane (n : Nat) : Bool := within n && n ≤ basicPlaneEnd
  ((low :: (if ascii then [] else lookalikes low)).any fun l =>
    (lowerSources ascii l).any inBasicPlane) ||
    (basicPlaneEnd < last && (within low.toNat || within (upperChar low).toNat))

namespace SetItem

/-- Whether a member of a set makes the set disregard case. All code points beyond the basic plane do. -/
def disregardsCase (ascii : Bool) : SetItem → Bool
  | char n => basicPlaneEnd < n || hasOtherCase ascii n
  | range first last => basicPlaneEnd < last || meetsOtherCase ascii first last
  | cls .. => false

/-- Whether a member of a set holds a character. -/
def holds (ascii : Bool) (c : Char) : SetItem → Bool
  | char n => c.toNat == n
  | range first last => first ≤ c.toNat && c.toNat ≤ last
  | cls k negated => k.holds ascii c != negated

/-- Whether a member of a set that disregards case holds a letter, given in lower case. A code point
beyond the basic plane stands for itself alone. -/
def holdsLow (ascii : Bool) (low : Char) : SetItem → Bool
  | char n =>
    if basicPlaneEnd < n then low.toNat == n
    else (Char.ofNat n).toNat == n && sameLow ascii low (lowerUnder ascii (Char.ofNat n))
  | range first last => rangeHoldsLow ascii first last low
  | cls k negated => k.holds ascii low != negated

end SetItem

/-- Whether a character is one of a set, under the flags. -/
def inSet (f : Flags) (negated : Bool) (items : List SetItem) : Char → Bool :=
  let folds := f.ignoreCase && items.any (SetItem.disregardsCase f.ascii)
  fun c =>
    let found :=
      if folds then items.any (SetItem.holdsLow f.ascii (lowerUnder f.ascii c))
      else items.any (SetItem.holds f.ascii c)
    found != negated

/-- Whether the code point `n` stands for the character `c`, under the flags. -/
def isChar (f : Flags) (n : Nat) (c : Char) : Bool :=
  if f.ignoreCase then sameLetter f.ascii n c else c.toNat == n

/-! ### Places in a text -/

/-- A place in a text, with the texts that the groups have kept on the way there. -/
structure Cursor where
  /-- The characters before the place, the nearest one first. -/
  before : Text
  /-- The characters after the place. -/
  after : Text
  /-- The number of characters before the place. -/
  index : Nat
  /-- The kept texts, by group, each with the index of its end. -/
  kept : List (Nat × Nat × Text)
  /-- The indices at which the groups were last entered. -/
  entered : List (Nat × Nat)

namespace Cursor

/-- The start of a text. -/
def start (t : Text) : Cursor := ⟨[], t, 0, [], []⟩

/-- The place after the next character, if that satisfies `p`. -/
def step? (s : Cursor) (p : Char → Bool) : Option Cursor :=
  match s.after with
  | [] => none
  | c :: rest =>
    if p c then some { s with before := c :: s.before, after := rest, index := s.index + 1 } else none

/-- The place `n` characters back. -/
def back? (s : Cursor) : Nat → Option Cursor
  | 0 => some s
  | n + 1 => match s.before with
    | [] => none
    | c :: rest => back? { s with before := rest, after := c :: s.after, index := s.index - 1 } n

/-- The place after a text, compared character by character. -/
def follow? (s : Cursor) (same : Char → Char → Bool) : Text → Option Cursor
  | [] => some s
  | c :: rest => (s.step? (same c)).bind (·.follow? same rest)

/-- The place as the start of a group. -/
def enter (s : Cursor) (group : Nat) : Cursor :=
  { s with entered := (group, s.index) :: s.entered }

/-- The place as the end of a group that was entered at `start`; the text between is kept. -/
def keep (s : Cursor) (group : Nat) (start : Cursor) : Cursor :=
  { s with kept := (group, s.index, start.after.take (s.index - start.index)) :: s.kept }

/-- The text that a group kept. -/
def keptText? (s : Cursor) (group : Nat) : Option Text := (s.kept.lookup group).map (·.2)

/-- Whether a group has kept a text, and one that does not end before the group was last entered. -/
def hasKept (s : Cursor) (group : Nat) : Bool :=
  match s.kept.lookup group, s.entered.lookup group with
  | some (stop, _), some start => start ≤ stop
  | _, _ => false

/-- Whether the place is an anchor's. -/
def isAt (s : Cursor) (f : Flags) : Anchor → Bool
  | .textStart => s.before.isEmpty
  | .textEnd => s.after.isEmpty
  | .lineStart => s.before.isEmpty || (f.multiline && s.before.head? == some '\n')
  | .lineEnd =>
    s.after.isEmpty || s.after == ['\n'] || (f.multiline && s.after.head? == some '\n')
  | .wordEdge => !(s.before.isEmpty && s.after.isEmpty) && atEdge
  | .notWordEdge => !(s.before.isEmpty && s.after.isEmpty) && !atEdge
where
  /-- Whether the neighbours differ in being characters of words. -/
  atEdge : Bool :=
    let inWord (c : Option Char) : Bool := c.any (CharClass.word.holds f.ascii)
    inWord s.before.head? != inWord s.after.head?

end Cursor

/-! ### Repetitions -/

/-- A way to match: from a place, with what must match afterwards. -/
abbrev Matcher := Cursor → (Cursor → Option Cursor) → Option Cursor

/-- A matcher that commits to its first match. -/
def Matcher.once (m : Matcher) : Matcher := fun s k => (m s some).bind k

/-- Repeats a matcher `count` times. -/
def Matcher.exactly (m : Matcher) : Nat → Matcher
  | 0 => fun s k => k s
  | count + 1 => fun s k => m s fun s' => exactly m count s' k

/-- Up to `count` further rounds, as many as possible first. A round from where the last one started
is not tried. -/
def Matcher.upTo (m : Matcher) : Nat → Option Nat → Matcher
  | 0, _ => fun s k => k s
  | count + 1, last => fun s k =>
    if last == some s.index then k s
    else (m s fun s' => upTo m count (some s.index) s' k).orElse fun _ => k s

/-- Up to `count` further rounds, as few as possible first. -/
def Matcher.upToLazy (m : Matcher) : Nat → Option Nat → Matcher
  | 0, _ => fun s k => k s
  | count + 1, last => fun s k =>
    (k s).orElse fun _ =>
      if last == some s.index then none else m s fun s' => upToLazy m count (some s.index) s' k

/-- Up to `count` further rounds, as many as possible, each committed to. -/
def Matcher.upToPossessive (m : Matcher) : Nat → Cursor → Cursor
  | 0, s => s
  | count + 1, s => match m s some with
    | none => s
    | some s' => if s'.index == s.index then s' else upToPossessive m count s'

/-- Repeats a matcher. Beyond `low`, no more rounds are needed than there are characters left. -/
def Matcher.repeated (m : Matcher) (a : Appetite) (low : Nat) (high : Option Nat) : Matcher :=
  fun s k =>
    let further (s' : Cursor) : Nat :=
      match high with
      | none => s'.after.length + 1
      | some h => min (h - low) (s'.after.length + 1)
    match a with
    | .greedy => m.exactly low s fun s' => m.upTo (further s') none s' k
    | .lazy => m.exactly low s fun s' => m.upToLazy (further s') none s' k
    | .possessive => (m.once.exactly low s some).bind fun s' => k (m.upToPossessive (further s') s')

/-! ### Expressions -/

namespace Expr

/-- The matcher of an expression, given the widths of the groups. -/
def matcher (groups : Nat → Nat × Nat) (f : Flags) : Expr → Matcher
  | empty => fun s k => k s
  | char n => fun s k => (s.step? (isChar f n)).bind k
  | notChar n => fun s k => (s.step? fun c => !isChar f n c).bind k
  | any => fun s k => (s.step? fun c => f.dotAll || c != '\n').bind k
  | set negated items =>
    let holds := inSet f negated items
    fun s k => (s.step? holds).bind k
  | anchor a => fun s k => if s.isAt f a then k s else none
  | cat a b => fun s k => matcher groups f a s fun s' => matcher groups f b s' k
  | alt a b => fun s k => (matcher groups f a s k).orElse fun _ => matcher groups f b s k
  | rep a low high body => (matcher groups f body).repeated a low high
  | group index on off body => fun s k =>
    match index with
    | some i => matcher groups (f.adjust on off) body (s.enter i) fun s' => k (s'.keep i s)
    | none => matcher groups (f.adjust on off) body s k
  | backref i => fun s k =>
    match s.keptText? i with
    | none => none
    | some t =>
      let same (a b : Char) : Bool :=
        if f.ignoreCase then lowerUnder f.ascii a == lowerUnder f.ascii b else a == b
      (s.follow? same t).bind k
  | branch i yes no => fun s k =>
    if s.hasKept i then matcher groups f yes s k else matcher groups f no s k
  | look behind negated body => fun s k =>
    let from? := if behind then s.back? (width groups body).1 else some s
    let found := from?.bind fun s' => matcher groups f body s' some
    match found, negated with
    | some s', false => k { s with kept := s'.kept, entered := s'.entered }
    | none, true => k s
    | _, _ => none
  | atomic body => fun s k => (matcher groups f body s some).bind k

/-- The widths of the numbered groups in an expression. -/
def groupWidths : Expr → List (Nat × Nat × Nat) → List (Nat × Nat × Nat)
  | cat a b, ws | alt a b, ws | branch _ a b, ws => groupWidths b (groupWidths a ws)
  | rep _ _ _ body, ws | look _ _ body, ws | atomic body, ws => groupWidths body ws
  | group index _ _ body, ws =>
    let ws := groupWidths body ws
    match index with
    | none => ws
    | some i => (i, body.width fun j => (ws.lookup j).getD (0, 0)) :: ws
  | _, ws => ws

end Expr

end Copyedit.Regex
