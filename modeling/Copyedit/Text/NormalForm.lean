import Copyedit.Text.Basic
import Copyedit.Text.CanonicalTables

/-!
# Canonical composition

Texts that look the same can be spelled with different characters: a letter with a mark, or one
composite. `Text.compose` brings every text to the composed form: each character is taken apart, marks
are put in the order of their combining classes, and what composes is put together again. Syllable
blocks of Hangul are taken apart and put together by arithmetic.
-/

namespace Copyedit

namespace Hangul

/-- The first syllable block. -/
def syllableBase : Nat := 0xac00
/-- The first leading consonant. -/
def leadBase : Nat := 0x1100
/-- The first vowel. -/
def vowelBase : Nat := 0x1161
/-- One before the first trailing consonant. -/
def tailBase : Nat := 0x11a7
/-- The number of vowels. -/
def vowelCount : Nat := 21
/-- The number of trailing consonants, with none at all. -/
def tailCount : Nat := 28
/-- The number of leading consonants. -/
def leadCount : Nat := 19
/-- The number of syllable blocks. -/
def syllableCount : Nat := leadCount * vowelCount * tailCount

/-- The letters of a syllable block. -/
def decompose? (n : Nat) : Option (List Nat) :=
  if syllableBase ≤ n && n < syllableBase + syllableCount then
    let i := n - syllableBase
    let lead := leadBase + i / (vowelCount * tailCount)
    let vowel := vowelBase + i % (vowelCount * tailCount) / tailCount
    let tail := tailBase + i % tailCount
    some (if tail = tailBase then [lead, vowel] else [lead, vowel, tail])
  else none

/-- The syllable block of a leading consonant and a vowel, or of an open block and a trailing
consonant. -/
def compose? (a b : Nat) : Option Nat :=
  if leadBase ≤ a && a < leadBase + leadCount && vowelBase ≤ b && b < vowelBase + vowelCount then
    some (syllableBase + ((a - leadBase) * vowelCount + (b - vowelBase)) * tailCount)
  else if syllableBase ≤ a && a < syllableBase + syllableCount && (a - syllableBase) % tailCount == 0
      && tailBase < b && b < tailBase + tailCount then
    some (a + (b - tailBase))
  else none

end Hangul

/-- The combining class of a character; 0 for all that are not marks. -/
def combiningClass (n : Nat) : Nat :=
  if n < 0x300 then 0
  else match combiningRuns.find? fun r => r.1 ≤ n && n ≤ r.2.1 with
    | some r => r.2.2
    | none => 0

/-- One step of taking a character apart. -/
def decomposeOnce? (n : Nat) : Option (List Nat) :=
  if n < 0xc0 then none
  else match composites.find? (·.1 == n) with
    | some r => some [r.2.1, r.2.2]
    | none => match oneWay.lookup n with
      | some parts => some parts
      | none => Hangul.decompose? n

/-- Takes a character apart completely, in at most `depth` steps. -/
def decomposeFully : Nat → Nat → List Nat
  | 0, n => [n]
  | depth + 1, n => match decomposeOnce? n with
    | none => [n]
    | some parts => parts.flatMap (decomposeFully depth)

/-- No character takes more steps than this to be taken apart. -/
def decompositionDepth : Nat := 6

/-- Puts a mark in front of the marks of a higher class; the list holds classes with characters. -/
def insertMark (m : Nat × Nat) : List (Nat × Nat) → List (Nat × Nat)
  | [] => [m]
  | x :: rest => if x.1 ≠ 0 && m.1 ≠ 0 && m.1 < x.1 then x :: insertMark m rest else m :: x :: rest

/-- Adds a character after characters in order, which are held in reverse. -/
def orderInto (seen : List (Nat × Nat)) (n : Nat) : List (Nat × Nat) :=
  insertMark (combiningClass n, n) seen

/-- Marks between other characters sorted by class, those of one class staying in order. -/
def canonicalOrder (codes : List Nat) : List (Nat × Nat) := (codes.foldl orderInto []).reverse

/-- The composite of two characters. -/
def composePair? (a b : Nat) : Option Nat :=
  match Hangul.compose? a b with
  | some n => some n
  | none => (composites.find? fun r => r.2.1 == a && r.2.2 == b).map (·.1)

/-- Composes a base character with what follows it. `marks` holds, in reverse, the marks after the base
that did not compose with it, and `last` is the class of the character before. -/
def composeFrom (base : Nat) (marks : List Nat) (last : Nat) : List (Nat × Nat) → List Nat
  | [] => base :: marks.reverse
  | (cls, n) :: rest =>
    let blocked := !marks.isEmpty && (last == 0 || last ≥ cls)
    match (if blocked then none else composePair? base n) with
    | some whole => composeFrom whole marks last rest
    | none =>
      if cls = 0 then base :: marks.reverse ++ composeFrom n [] 0 rest
      else composeFrom base (n :: marks) cls rest

/-- Composes ordered characters; marks before the first base stand as they are. -/
def composeAll : List (Nat × Nat) → List Nat
  | [] => []
  | (cls, n) :: rest => if cls = 0 then composeFrom n [] 0 rest else n :: composeAll rest

namespace Text

/-- The canonically composed form of a text. -/
def compose (t : Text) : Text :=
  if t.all (·.toNat < 0x300) then t
  else (composeAll (canonicalOrder
    (t.flatMap fun c => decomposeFully decompositionDepth c.toNat))).map Char.ofNat

end Text

end Copyedit
