import Copyedit.Regex.Expr
import Copyedit.Regex.Fault
import Copyedit.Text.Numerals
import Copyedit.Text.Quoted

/-!
# Reading a regular expression piece by piece

The text of an expression is a list of lexemes, a character or a backslash with a character, and a
reader walks along it. The reader also keeps what later parts of an expression refer to: the groups
with their widths and names, and the flags of the whole expression.
-/

namespace Copyedit.Regex

/-- A piece of the text of an expression. -/
inductive Lexeme where
  /-- A character that stands alone. -/
  | plain (c : Char)
  /-- A character after a backslash. -/
  | escaped (c : Char)
  /-- A backslash at the end. -/
  | dangling
  deriving DecidableEq, Repr, Inhabited

namespace Lexeme

/-- The text of the piece. -/
def written : Lexeme → Text
  | plain c => [c]
  | escaped c => ['\\', c]
  | dangling => ['\\']

/-- The pieces of a text. -/
def ofText : Text → List Lexeme
  | [] => []
  | ['\\'] => [dangling]
  | '\\' :: c :: rest => escaped c :: ofText rest
  | c :: rest => plain c :: ofText rest

end Lexeme

/-- Where the reading of an expression stands. -/
structure Reader where
  /-- The whole text. -/
  source : Text
  /-- Whether the expression is one of bytes, each being the character with its code. -/
  ofBytes : Bool
  /-- The pieces to come. -/
  rest : List Lexeme
  /-- The position of the next piece. -/
  position : Nat
  /-- The width of each group once it is closed; the first entry stands for the whole expression. -/
  groups : List (Option (Nat × Nat))
  /-- The groups that have names. -/
  names : List (Text × Nat)
  /-- How many groups there were before the look-behind being read. -/
  lookBehind : Option Nat
  /-- Groups that conditionals ask for, each with the position of the first demand. -/
  demanded : List (Nat × Nat)
  /-- The flags of the whole expression. -/
  flags : Flags
  /-- The number of groups around what is being read. -/
  depth : Nat := 0

/-- A step of reading: it moves the reader on or finds a fault. -/
abbrev Reading := StateT Reader (Except Fault)

namespace Reader

/-- The fault `cause`, noticed `offset` characters before the reader's position. -/
def fault {α : Type} (cause : Cause) (offset : Nat := 0) : Reading α := do
  throw ⟨cause, some ((← get).position - offset)⟩

/-- The next piece. -/
def peek : Reading (Option Lexeme) := return (← get).rest.head?

/-- Refuses a backslash at the end as soon as it comes up. -/
def checkDangling (r : Reader) : Except Fault Reader :=
  match r.rest with
  | .dangling :: _ => .error ⟨.danglingEscape, some (r.source.length - 1)⟩
  | _ => .ok r

/-- Passes over the next piece. -/
def advance : Reading Unit := fun r =>
  match r.rest with
  | [] => .ok ((), r)
  | l :: rest =>
    (checkDangling { r with rest, position := r.position + l.written.length }).map ((), ·)

/-- Takes the next piece. -/
def next : Reading (Option Lexeme) := do
  let l ← peek
  advance
  return l

/-- Passes over the next piece if it is the character `c`. -/
def accept (c : Char) : Reading Bool := do
  if (← peek) == some (.plain c) then
    advance
    return true
  else return false

/-- Takes up to `n` characters that satisfy `p`. -/
def takeWhile (p : Char → Bool) : Nat → Reading Text
  | 0 => return []
  | n + 1 => do
    match ← peek with
    | some (.plain c) =>
      if p c then
        advance
        return c :: (← takeWhile p n)
      else return []
    | _ => return []

/-- Takes what stands before a terminator, and the terminator. `what` names it in faults. -/
def takeUntil (terminator : Char) (what : String) (seen : Text) : Nat → Reading Text
  | 0 => fault (.missing what)
  | fuel + 1 => do
    match ← next with
    | none =>
      if seen.isEmpty then fault (.missing what)
      else fault (.unterminatedName (String.ofList [terminator])) seen.length
    | some l =>
      if l = .plain terminator then
        if seen.isEmpty then fault (.missing what) 1 else return seen
      else takeUntil terminator what (seen ++ l.written) fuel

/-- Takes a name before a terminator. -/
def takeName (terminator : Char) (what : String) : Reading Text := do
  takeUntil terminator what [] ((← get).rest.length + 1)

/-- The fault, if the group with this number cannot be referred to from here. -/
def checkBackref (index : Nat) (offset : Nat) : Reading Unit := do
  let r ← get
  if (r.groups[index]?).join.isNone then fault .openGroup offset
  match r.lookBehind with
  | some before => if index ≥ before then fault .sameLookBehind
  | none => return

/-- The fault, if a look-behind is being read and the group is in it or not closed. -/
def checkDemand (index : Nat) : Reading Unit := do
  let r ← get
  match r.lookBehind with
  | some before =>
    if (r.groups[index]?).join.isNone then fault .openGroup
    if index ≥ before then fault .sameLookBehind
  | none => return

/-- Opens a group and gives its number. -/
def openGroup (name : Option Text) : Reading Nat := do
  let r ← get
  let index := r.groups.length
  match name with
  | none => set { r with groups := r.groups ++ [none] }
  | some name =>
    match r.names.lookup name with
    | some first =>
      set { r with groups := r.groups ++ [none] }
      fault (.groupNamedTwice (String.ofList name.quoted) index first) (name.length + 1)
    | none => set { r with groups := r.groups ++ [none], names := r.names ++ [(name, index)] }
  return index

/-- The widths of the closed groups. -/
def groupWidth (r : Reader) (index : Nat) : Nat × Nat := (r.groups[index]?).join.getD (0, 0)

/-- Closes a group with what it holds. -/
def closeGroup (index : Nat) (body : Expr) : Reading Unit :=
  modify fun r => { r with groups := r.groups.set index (some (body.width r.groupWidth)) }

end Reader

end Copyedit.Regex
