import Copyedit.Sentence.Basic

/-!
# Splitting a sentence into tokens

At each place the first of these that fits is the token: a web address, an e-mail address, a number, a
word (with hyphens and apostrophes inside), or any other single character that is not blank.
-/

namespace Copyedit

/-- A letter of the Latin alphabet regardless of case, with those that have such a counterpart. -/
def isLatinLetter (c : Char) : Bool :=
  isAsciiLetter c || c == 'İ' || c == 'ı' || c == 'ſ' || c == '\u212a'

/-- A character of the scheme of a web address, after its first letter. -/
def isSchemeChar (c : Char) : Bool :=
  isLatinLetter c || isAsciiDigit c || c == '+' || c == '.' || c == '-'

/-- Punctuation that is not the end of a web address. -/
def isAddressTrailer (c : Char) : Bool :=
  c == '.' || c == ',' || c == ';' || c == ':' || c == '!' || c == '?' || c == ')' || c == ']' ||
    c == '\'' || c == '"'

/-- A character of a mailbox name. -/
def isMailboxChar (c : Char) : Bool := isWordChar c || c == '.' || c == '+' || c == '-'

/-- A character of a part of a domain name. -/
def isDomainChar (c : Char) : Bool := isWordChar c || c == '-'

/-- A mark inside a number. -/
def isNumberJoiner (c : Char) : Bool := c == '.' || c == ','

/-- A mark inside a word. -/
def isWordJoiner (c : Char) : Bool := c == '-' || c == '\'' || c == '’'

namespace Text

/-- The text after a scheme with its colon and slashes. -/
def afterScheme? : Text → Option Text
  | [] => none
  | c :: rest =>
    if isLatinLetter c then
      match rest.dropWhile isSchemeChar with
      | ':' :: '/' :: '/' :: after => some after
      | _ => none
    else none

/-- The text after `www.` regardless of case. -/
def afterWww? : Text → Option Text
  | a :: b :: c :: '.' :: rest =>
    if [a, b, c].all fun x => x == 'w' || x == 'W' then some rest else none
  | _ => none

/-- The number of characters of parts joined by single separators, from the start of a text on; 0 if it
does not start with a part. -/
def chainLength (isSep isPart : Char → Bool) (t : Text) : Nat :=
  if (t.takeWhile isPart).isEmpty then 0
  else
    (t.takeWhile isPart).length +
      match h : t.dropWhile isPart with
      | [] => 0
      | c :: rest =>
        if isSep c then
          let n := chainLength isSep isPart rest
          if n = 0 then 0 else n + 1
        else 0
termination_by t.length
decreasing_by
  have hle : (t.dropWhile isPart).length ≤ t.length := (List.dropWhile_suffix isPart).length_le
  rw [h] at hle
  simp only [List.length_cons] at hle
  omega

/-- The length of a web address that starts the text, given what follows its start. It runs to the last
character before a blank that is not punctuation. -/
def addressLength? (t : Text) (afterStart? : Text → Option Text) : Option Nat :=
  let run := t.takeWhile (!isBlank ·)
  (afterStart? run).bind fun body =>
    let kept := dropEndWhile isAddressTrailer body
    if kept.isEmpty then none else some (run.length - body.length + kept.length)

/-- The length of an e-mail address that starts the text. -/
def emailLength? (t : Text) : Option Nat :=
  let mailbox := t.takeWhile isMailboxChar
  match t.dropWhile isMailboxChar with
  | '@' :: domain =>
    let n := chainLength (· == '.') isDomainChar domain
    if mailbox.isEmpty || n ≤ (domain.takeWhile isDomainChar).length then none
    else some (mailbox.length + 1 + n)
  | _ => none

/-- A length, unless it is zero. -/
def positive? (n : Nat) : Option Nat := if n = 0 then none else some n

/-- The length of the token that starts a text. -/
def tokenLength (t : Text) : Nat :=
  let found :=
    (addressLength? t afterScheme?).orElse fun _ =>
    (addressLength? t afterWww?).orElse fun _ =>
    (emailLength? t).orElse fun _ =>
    (positive? (chainLength isNumberJoiner isDecimal t)).orElse fun _ =>
    positive? (chainLength isWordJoiner isWordChar t)
  max 1 (found.getD 1)

/-- The tokens of a text that starts at `position`. `spaced` tells whether a blank stands before it, and
`first` whether no token does. -/
def tokensFrom (position : Int) (spaced first : Bool) (t : Text) : List Token :=
  match t with
  | [] => []
  | c :: rest =>
    if isBlank c then tokensFrom (position + 1) true first rest
    else
      let n := tokenLength (c :: rest)
      { text := some ((c :: rest).take n), start := position, spaceBefore := spaced,
        opensSentence := first } ::
        tokensFrom (position + n) false false ((c :: rest).drop n)
termination_by t.length
decreasing_by
  · simp
  · have h : 1 ≤ tokenLength (c :: rest) := Nat.le_max_left ..
    simp only [List.length_drop, List.length_cons]
    omega

/-- The tokens of a sentence at an offset in its document. -/
def tokens (t : Text) (offset : Int := 0) : List Token := tokensFrom offset false true t

end Text

end Copyedit
