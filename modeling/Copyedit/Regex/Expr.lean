/-!
# Regular expressions

The tree of a regular expression. Characters are code points, since an expression may name one that no
text holds. Sequences and choices are binary, so that a function on expressions recurses on the tree.
`Expr.width` gives the least and the greatest number of characters that an expression can match, by
which a look-behind is placed.
-/

namespace Copyedit.Regex

/-- How characters are told apart in a part of an expression. -/
structure Flags where
  /-- Letters match regardless of case. -/
  ignoreCase : Bool := false
  /-- Line ends count as ends of the text for the line anchors. -/
  multiline : Bool := false
  /-- The dot matches a line end too. -/
  dotAll : Bool := false
  /-- Blanks and comments in the expression are passed over. -/
  verbose : Bool := false
  /-- Character classes and case know ASCII alone. -/
  ascii : Bool := false
  /-- Character classes and case know all characters, as they do where nothing is said. -/
  unicode : Bool := false
  /-- Character classes and case are those of the machine's locale; only expressions of bytes can say so. -/
  locale : Bool := false
  /-- No part of the expression may be repeated. -/
  once : Bool := false
  deriving DecidableEq, Repr, Inhabited

/-- `f` with the flags of `on` set and those of `off` cleared. -/
def Flags.adjust (f on off : Flags) : Flags where
  ignoreCase := (f.ignoreCase || on.ignoreCase) && !off.ignoreCase
  multiline := (f.multiline || on.multiline) && !off.multiline
  dotAll := (f.dotAll || on.dotAll) && !off.dotAll
  verbose := (f.verbose || on.verbose) && !off.verbose
  ascii := (f.ascii || on.ascii) && !off.ascii
  unicode := (f.unicode || on.unicode) && !off.unicode
  locale := (f.locale || on.locale) && !off.locale
  once := (f.once || on.once) && !off.once

/-- A named class of characters. -/
inductive CharClass where
  /-- Decimal digits. -/
  | digit
  /-- Blanks. -/
  | blank
  /-- Characters of words. -/
  | word
  deriving DecidableEq, Repr

/-- A member of a character set. -/
inductive SetItem where
  /-- One character. -/
  | char (n : Nat)
  /-- The characters from `first` to `last`. -/
  | range (first last : Nat)
  /-- A named class, or what is outside it. -/
  | cls (c : CharClass) (negated : Bool)
  deriving DecidableEq, Repr

/-- A place in the text that an expression can demand. -/
inductive Anchor where
  /-- The start of the text, or of a line. -/
  | lineStart
  /-- The end of the text, or of a line. -/
  | lineEnd
  /-- The start of the text. -/
  | textStart
  /-- The end of the text. -/
  | textEnd
  /-- The start or the end of a word. -/
  | wordEdge
  /-- Neither the start nor the end of a word. -/
  | notWordEdge
  deriving DecidableEq, Repr

/-- In which order the numbers of repetitions are tried. -/
inductive Appetite where
  /-- As many as possible first. -/
  | greedy
  /-- As few as possible first. -/
  | lazy
  /-- As many as possible, and never fewer. -/
  | possessive
  deriving DecidableEq, Repr

/-- A regular expression. -/
inductive Expr where
  /-- Matches the empty text. -/
  | empty
  /-- One character. -/
  | char (n : Nat)
  /-- Any character but one. -/
  | notChar (n : Nat)
  /-- Any character, but for line ends where the flags exclude them. -/
  | any
  /-- A character of the set, or one outside it. -/
  | set (negated : Bool) (items : List SetItem)
  /-- A place. -/
  | anchor (a : Anchor)
  /-- One after the other. -/
  | cat (first second : Expr)
  /-- The first one, or else the second. -/
  | alt (first second : Expr)
  /-- Repeated at least `min` times and, if bounded, at most `max` times. -/
  | rep (appetite : Appetite) (min : Nat) (max : Option Nat) (body : Expr)
  /-- A group, numbered if its text is kept, with flags of its own. -/
  | group (index : Option Nat) (on off : Flags) (body : Expr)
  /-- The text that a group kept. -/
  | backref (index : Nat)
  /-- One of two expressions, as a group has kept a text or not. -/
  | branch (index : Nat) (yes no : Expr)
  /-- Looks ahead, or back if `behind`, without consuming. -/
  | look (behind negated : Bool) (body : Expr)
  /-- The first match of the body, and no other. -/
  | atomic (body : Expr)
  deriving Inhabited

/-- The first number that is no bound of a repetition. -/
def boundLimit : Nat := 4294967295

/-- The largest width that is told from an unbounded one. -/
def widthLimit : Nat := 18446744073709551616

namespace Expr

/-- The least and greatest width, given the widths of the numbered groups. -/
def rawWidth (groups : Nat → Nat × Nat) : Expr → Nat × Nat
  | empty | anchor _ | look .. => (0, 0)
  | char _ | notChar _ | any | set .. => (1, 1)
  | cat a b =>
    let (i, j) := rawWidth groups a
    let (l, h) := rawWidth groups b
    (i + l, j + h)
  | alt a b =>
    let (i, j) := rawWidth groups a
    let (l, h) := rawWidth groups b
    (min i l, max j h)
  | rep _ lo hi body =>
    let (i, j) := rawWidth groups body
    (min (i * lo) widthLimit, min (j * hi.getD widthLimit) widthLimit)
  | group _ _ _ body | atomic body => rawWidth groups body
  | backref n => groups n
  | branch _ yes no =>
    let (i, j) := rawWidth groups yes
    let (l, h) := rawWidth groups no
    (min i l, max j h)

/-- The least and greatest width, within the limit. -/
def width (groups : Nat → Nat × Nat) (e : Expr) : Nat × Nat :=
  let (lo, hi) := rawWidth groups e
  (min lo widthLimit, min hi widthLimit)

/-- A part of an expression that cannot be matched. -/
inductive Misuse where
  /-- A look-behind that can have several widths. -/
  | lookBehind
  /-- A look-behind that is too wide. -/
  | farBehind
  /-- A repetition where nothing may be repeated. -/
  | repetition (a : Appetite)

/-- The first part of an expression that cannot be matched. `once` holds if nothing may be repeated. -/
def misuse? (groups : Nat → Nat × Nat) (once : Bool) : Expr → Option Misuse
  | cat a b | alt a b | branch _ a b =>
    (misuse? groups once a).orElse fun _ => misuse? groups once b
  | rep a _ _ body => if once then some (.repetition a) else misuse? groups once body
  | group _ _ _ body | atomic body => misuse? groups once body
  | look behind _ body =>
    let (lo, hi) := width groups body
    if behind && boundLimit < lo then some .farBehind
    else if behind && lo != hi then some .lookBehind
    else misuse? groups once body
  | _ => none

/-! ### Sequences and choices -/

/-- The expressions one after the other. -/
def ofList : List Expr → Expr
  | [] => empty
  | [e] => e
  | e :: rest => cat e (ofList rest)

/-- The expressions that an expression is a sequence of; a group that is not kept and sets no flags is
its body. -/
def parts : Expr → List Expr
  | empty => []
  | cat a b => parts a ++ parts b
  | group none on off body =>
    if on = {} && off = {} then parts body else [group none on off body]
  | e => [e]

/-- Whether two expressions are one and the same character, set, place or reference. -/
def sameAtom : Expr → Expr → Bool
  | char m, char n => m == n
  | notChar m, notChar n => m == n
  | any, any => true
  | set m xs, set n ys => m == n && xs == ys
  | anchor a, anchor b => a == b
  | backref m, backref n => m == n
  | _, _ => false

/-- The members of the set that an expression stands for, if it is a character or such a set. -/
def members? : List Expr → Option (List SetItem)
  | [char n] => some [.char n]
  | [set false items] => some items
  | _ => none

/-- The longest sequence with which all sequences begin, the first one being `first`, and what follows
it in each. -/
def commonStart (first : List Expr) (others : List (List Expr)) : List Expr × List (List Expr) :=
  match first with
  | [] => ([], [] :: others)
  | e :: rest =>
    if others.all fun other => (other.head?.map (sameAtom e)).getD false then
      let (shared, after) := commonStart rest (others.map List.tail)
      (e :: shared, after)
    else ([], (e :: rest) :: others)

/-- A choice between expressions, from the first one on. -/
def ofChoices : List Expr → Expr
  | [] => empty
  | [e] => e
  | e :: rest => alt e (ofChoices rest)

/-- A choice between expressions. What all of them begin with comes before the choice, and a choice
between single characters and sets is a set. -/
def choose (choices : List Expr) : Expr :=
  match choices with
  | [] => empty
  | [e] => e
  | first :: others =>
    let (shared, rest) := commonStart first.parts (others.map parts)
    match rest.mapM members? with
    | some items => ofList (shared ++ [set false items.flatten.eraseDups])
    | none => ofList (shared ++ [ofChoices (rest.map ofList)])

/-- The characters of a text, one after the other. -/
def literal (t : List Char) : Expr := ofList (t.map fun c => char c.toNat)

end Expr

end Copyedit.Regex
