import Copyedit.Text.Basic
import Copyedit.Text.Letters
import Copyedit.Text.CaseTables

/-!
# Letter case

Classification of letters by case, and the conversions of whole texts. A conversion goes character by
character; some letters turn into several characters, and a final sigma is told from an inner one by
its neighbours. Folding is the conversion under which texts are compared regardless of case.
-/

namespace Copyedit

/-- Whether a character is an upper-case letter. -/
def isUpper (c : Char) : Bool :=
  if c.toNat < 128 then 'A' ≤ c && c ≤ 'Z' else upperRuns.any (·.contains c.toNat)

/-- Whether a character is a lower-case letter. -/
def isLower (c : Char) : Bool :=
  if c.toNat < 128 then 'a' ≤ c && c ≤ 'z' else lowerRuns.any (·.contains c.toNat)

/-- Whether a character has case. -/
def isCased (c : Char) : Bool :=
  isUpper c || isLower c || titleRuns.any (·.contains c.toNat)

/-- Whether a character is passed over in looking for the letters next to a sigma. -/
def isCaseIgnorable (c : Char) : Bool := CodeSet.contains ⟨caseIgnorableBounds⟩ c.toNat

/-- The single-character lower-case counterpart. -/
def lowerChar (c : Char) : Char :=
  if c.toNat < 128 then (if 'A' ≤ c && c ≤ 'Z' then Char.ofNat (c.toNat + 32) else c)
  else if c = 'İ' then 'i'
  else ((toLowerRuns.findSome? (·.image? c.toNat)).map Char.ofNat).getD c

/-- The lower-case counterpart of a character on its own. -/
def lowerOf (c : Char) : Text := if c = 'İ' then ['i', '\u0307'] else [lowerChar c]

/-- The upper-case counterpart of a character. -/
def upperOf (c : Char) : Text :=
  if c.toNat < 128 then (if 'a' ≤ c && c ≤ 'z' then [Char.ofNat (c.toNat - 32)] else [c])
  else match toUpperLong.lookup c.toNat with
    | some parts => parts.map Char.ofNat
    | none => [((toUpperRuns.findSome? (·.image? c.toNat)).map Char.ofNat).getD c]

/-- The first character of the upper-case counterpart. -/
def upperChar (c : Char) : Char := (upperOf c).headD c

/-- The form under which a character is compared regardless of case. -/
def foldOf (c : Char) : Text :=
  if c.toNat < 128 then lowerOf c
  else match foldLong.lookup c.toNat with
    | some parts => parts.map Char.ofNat
    | none => match foldRuns.findSome? (·.image? c.toNat) with
      | some n => [Char.ofNat n]
      | none => lowerOf c

namespace Text

/-- Whether the nearest character that is not passed over has case. -/
def meetsCased (t : Text) : Bool :=
  match t.dropWhile isCaseIgnorable with
  | [] => false
  | c :: _ => isCased c

/-- Lower-cases a text that follows `seen`, which is held in reverse. A capital sigma that ends a word
becomes a final sigma. -/
def lowerAfter (seen : Text) : Text → Text
  | [] => []
  | c :: rest =>
    (if c = 'Σ' then [if meetsCased seen && !meetsCased rest then 'ς' else 'σ'] else lowerOf c) ++
      lowerAfter (c :: seen) rest

/-- The text in lower case. -/
def lower (t : Text) : Text := lowerAfter [] t

/-- The text in upper case. -/
def upper (t : Text) : Text := t.flatMap upperOf

/-- The form of the text under which it is compared regardless of case. -/
def fold (t : Text) : Text := t.flatMap foldOf

end Text

/-- The lower-case letters that share their upper-case form with `c`, itself aside. -/
def lookalikes (c : Char) : List Char :=
  match lookalikeClasses.find? (·.contains c.toNat) with
  | some members => (members.filter (· ≠ c.toNat)).map Char.ofNat
  | none => []

end Copyedit
