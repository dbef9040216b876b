import Copyedit.Text.Quoted

/-!
# Faults of regular expressions

What can be wrong with the text of a regular expression, with the position at which it was noticed, and
the wording of each. A position in an expression of several lines also names line and column.
-/

namespace Copyedit.Regex

/-- What is wrong with an expression. -/
inductive Cause where
  /-- A backslash ends the expression. -/
  | danglingEscape
  /-- An escape that means nothing. -/
  | badEscape (written : String)
  /-- A numeric escape with too few digits. -/
  | incompleteEscape (written : String)
  /-- An octal escape that is too large. -/
  | octalTooLarge (written : String)
  /-- Something is missing. -/
  | missing (what : String)
  /-- A name has no end. -/
  | unterminatedName (terminator : String)
  /-- No character has this name. -/
  | unknownCharName (quoted : String)
  /-- A reference to a group from inside it. -/
  | openGroup
  /-- A reference to a group of the same look-behind. -/
  | sameLookBehind
  /-- A reference to a group that is not there. -/
  | noSuchGroup (index : Nat)
  /-- A character set has no end. -/
  | unterminatedSet
  /-- A range that ends before it starts. -/
  | badRange (written : String)
  /-- A repetition with its bounds the wrong way round. -/
  | boundsReversed
  /-- A repetition with a bound out of reach. -/
  | boundTooLarge
  /-- A repetition with a bound of more digits than are read. -/
  | boundTooLong
  /-- A repetition where nothing may be repeated, by its name. -/
  | repetitionRefused (name : String)
  /-- A repetition with nothing in front of it. -/
  | nothingToRepeat
  /-- A repetition of a repetition. -/
  | multipleRepeat
  /-- The expression ends inside a group's opening. -/
  | unexpectedEnd
  /-- A group name that is no name. -/
  | badGroupName (quoted : String)
  /-- A group name that is not given to a group. -/
  | unknownGroupName (quoted : String)
  /-- A group name given twice. -/
  | groupNamedTwice (quoted : String) (second first : Nat)
  /-- A kind of group that is not known. -/
  | unknownExtension (written : String)
  /-- A comment has no end. -/
  | unterminatedComment
  /-- A group has no end. -/
  | unterminatedGroup
  /-- The whole expression as a group to ask for. -/
  | badGroupNumber
  /-- A conditional with a third branch. -/
  | thirdBranch
  /-- Flags for the whole expression in the middle of it. -/
  | lateFlags
  /-- Flags that cannot be set like this. -/
  | badFlags (reason : String)
  /-- Flags for the whole expression that ask both for ASCII alone and for something else. -/
  | typesClash (other : String)
  /-- A letter that is no flag. -/
  | unknownFlag
  /-- A closing parenthesis without an opening one. -/
  | unbalanced
  /-- A look-behind that can have several widths. -/
  | lookBehindWidth
  /-- A look-behind that is too wide. -/
  | lookBehindTooFar
  /-- Groups inside of each other, more than are read. -/
  | tooDeep
  deriving DecidableEq, Repr

/-- What is wrong with an expression, and where. -/
structure Fault where
  /-- What is wrong. -/
  cause : Cause
  /-- The position at which it was noticed, if it has one. -/
  position : Option Nat
  deriving DecidableEq, Repr

/-- The wording of what is wrong. -/
def Cause.message : Cause → String
  | danglingEscape => "bad escape (end of pattern)"
  | badEscape w => "bad escape " ++ w
  | incompleteEscape w => "incomplete escape " ++ w
  | octalTooLarge w => "octal escape value " ++ w ++ " outside of range 0-0o377"
  | missing what => "missing " ++ what
  | unterminatedName t => "missing " ++ t ++ ", unterminated name"
  | unknownCharName q => "undefined character name " ++ q
  | openGroup => "cannot refer to an open group"
  | sameLookBehind => "cannot refer to group defined in the same lookbehind subpattern"
  | noSuchGroup n => s!"invalid group reference {n}"
  | unterminatedSet => "unterminated character set"
  | badRange w => "bad character range " ++ w
  | boundsReversed => "min repeat greater than max repeat"
  | boundTooLarge => "the repetition number is too large"
  | boundTooLong => "Exceeds the limit (4300 digits) for integer string conversion"
  | repetitionRefused name => "internal: unsupported template operator " ++ name
  | nothingToRepeat => "nothing to repeat"
  | multipleRepeat => "multiple repeat"
  | unexpectedEnd => "unexpected end of pattern"
  | badGroupName q => "bad character in group name " ++ q
  | unknownGroupName q => "unknown group name " ++ q
  | groupNamedTwice q second first =>
    s!"redefinition of group name {q} as group {second}; was group {first}"
  | unknownExtension w => "unknown extension " ++ w
  | unterminatedComment => "missing ), unterminated comment"
  | unterminatedGroup => "missing ), unterminated subpattern"
  | badGroupNumber => "bad group number"
  | thirdBranch => "conditional backref with more than two branches"
  | lateFlags => "global flags not at the start of the expression"
  | badFlags reason => "bad inline flags: " ++ reason
  | typesClash other => "ASCII and " ++ other ++ " flags are incompatible"
  | unknownFlag => "unknown flag"
  | unbalanced => "unbalanced parenthesis"
  | lookBehindWidth => "look-behind requires fixed-width pattern"
  | lookBehindTooFar => "looks too much behind"
  | tooDeep => "expression nested too deeply"

/-- The wording of a fault of the expression `written`. -/
def Fault.message (f : Fault) (written : Text) : String :=
  match f.position with
  | none => f.cause.message
  | some p =>
    let place := s!"{f.cause.message} at position {p}"
    if written.contains '\n' then
      let seen := written.take p
      let line := seen.count '\n' + 1
      let column := (seen.reverse.takeWhile (· ≠ '\n')).length + 1
      place ++ s!" (line {line}, column {column})"
    else place

/-- The wording of a fault of an expression of bytes: what is not of ASCII is told by its code. -/
def Fault.asciiMessage (f : Fault) (written : Text) : String :=
  String.ofList ((f.message written).toList.flatMap fun c =>
    if c.toNat < 128 then [c] else '\\' :: 'x' :: hexDigits 2 c.toNat)

end Copyedit.Regex
