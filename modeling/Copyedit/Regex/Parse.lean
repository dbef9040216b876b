import Copyedit.Decimal.Integer
import Copyedit.Regex.Lexeme
import Copyedit.Text.CharName
import Copyedit.Text.Identifiers

/-!
# Regular expressions from text

`Expr.ofText` reads the text of an expression. The grammar: choices between sequences of items; an item
is a character, an escape, a set in brackets, an anchor, a dot, or a group in parentheses, each with an
optional repetition. Faults come in reading order; what can only be judged on the whole expression
(references forward, the width of look-behinds) comes last.
-/

namespace Copyedit.Regex

open Reader

/-! ### Escapes -/

/-- The number that digits write in a base up to sixteen. -/
def numberOf (base : Nat) (digits : Text) : Nat :=
  digits.foldl (fun n c => n * base + (hexValue? c).getD 0) 0

/-- A digit of an octal number. -/
def isOctalDigit (c : Char) : Bool := '0' ≤ c && c ≤ '7'

/-- The characters that letters stand for after a backslash, in sets and outside. -/
def controlEscape? : Char → Option Nat
  | 'a' => some 7
  | 'f' => some 12
  | 'n' => some 10
  | 'r' => some 13
  | 't' => some 9
  | 'v' => some 11
  | '\\' => some 92
  | _ => none

/-- The classes that letters stand for after a backslash. -/
def classEscape? : Char → Option SetItem
  | 'd' => some (.cls .digit false)
  | 'D' => some (.cls .digit true)
  | 's' => some (.cls .blank false)
  | 'S' => some (.cls .blank true)
  | 'w' => some (.cls .word false)
  | 'W' => some (.cls .word true)
  | _ => none

/-- The anchors that letters stand for after a backslash. -/
def anchorEscape? : Char → Option Anchor
  | 'A' => some .textStart
  | 'b' => some .wordEdge
  | 'B' => some .notWordEdge
  | 'Z' => some .textEnd
  | _ => none

/-- The escape of exactly `width` hexadecimal digits after the letter `c`. -/
def hexEscape (c : Char) (width : Nat) : Reading Nat := do
  let digits ← takeWhile (fun d => (hexValue? d).isSome) width
  let written := '\\' :: c :: digits
  if digits.length ≠ width then fault (.incompleteEscape (String.ofList written)) written.length
  let n := numberOf 16 digits
  if n > 0x10ffff then fault (.badEscape (String.ofList written)) written.length
  return n

/-- The escape by the name of a character. -/
def namedEscape : Reading Nat := do
  if !(← accept '\x7b') then fault (.missing "\x7b")
  let name ← takeName '\x7d' "character name"
  match CharName.codeOf? name with
  | some n => return n
  | none => fault (.unknownCharName (String.ofList name.quoted)) (name.length + 4)

/-- The code of an escape that reads the same in sets and outside, if it is one. In an expression of bytes
there is none for other characters than bytes. -/
def codeEscape? (c : Char) : Reading (Option Nat) := do
  if c = 'x' then return some (← hexEscape c 2)
  else if (← get).ofBytes then return none
  else if c = 'u' then return some (← hexEscape c 4)
  else if c = 'U' then return some (← hexEscape c 8)
  else if c = 'N' then return some (← namedEscape)
  else return none

/-- What is left of escapes: letters and digits mean nothing, all else stands for itself. -/
def plainEscape (c : Char) : Reading Nat := do
  if isAsciiLetter c || isAsciiDigit c then
    fault (.badEscape (String.ofList ['\\', c])) 2
  return c.toNat

/-- An escape in a set. -/
def setEscape (c : Char) : Reading SetItem := do
  if c = 'b' then return .char 8
  if let some n := controlEscape? c then return .char n
  if let some item := classEscape? c then return item
  if let some n ← codeEscape? c then return .char n
  if isOctalDigit c then
    let digits := c :: (← takeWhile isOctalDigit 2)
    let n := numberOf 8 digits
    if n > 0o377 then
      fault (.octalTooLarge (String.ofList ('\\' :: digits))) (digits.length + 1)
    return .char n
  return .char (← plainEscape c)

/-- A reference to a group by number. -/
def backrefTo (digits : Text) : Reading Expr := do
  let index := numberOf 10 digits
  if index < (← get).groups.length then
    checkBackref index (digits.length + 1)
    return .backref index
  else fault (.noSuchGroup index) digits.length

/-- The next piece, if it is an ASCII digit. -/
def digitAhead? : Reading (Option Char) := do
  match ← peek with
  | some (.plain c) => return if isAsciiDigit c then some c else none
  | _ => return none

/-- An escape that begins with a digit from 1 on: a group, or a character in octal. -/
def digitEscape (first : Char) : Reading Expr := do
  match ← digitAhead? with
  | none => backrefTo [first]
  | some second =>
    advance
    match ← digitAhead? with
    | some third =>
      if isOctalDigit first && isOctalDigit second && isOctalDigit third then
        advance
        let digits := [first, second, third]
        let n := numberOf 8 digits
        if n > 0o377 then fault (.octalTooLarge (String.ofList ('\\' :: digits))) 4
        return .char n
      else backrefTo [first, second]
    | none => backrefTo [first, second]

/-- An escape outside sets. -/
def itemEscape (c : Char) : Reading Expr := do
  if let some a := anchorEscape? c then return .anchor a
  if let some item := classEscape? c then return .set false [item]
  if let some n := controlEscape? c then return .char n
  if let some n ← codeEscape? c then return .char n
  if c = '0' then
    return .char (numberOf 8 (← takeWhile isOctalDigit 2))
  if isAsciiDigit c then digitEscape c
  else return .char (← plainEscape c)

/-! ### Sets -/

/-- A member of a set, read from its first piece. -/
def setMember : Lexeme → Reading SetItem
  | .plain c => return .char c.toNat
  | .escaped c => setEscape c
  | .dangling => fault .danglingEscape

/-- The members of a set up to its bracket; `start` is where the set began. -/
def setMembers (start : Nat) (seen : List SetItem) : Nat → Reading (List SetItem)
  | 0 => fault .tooDeep
  | fuel + 1 => do
    let unterminated {α : Type} : Reading α := do
      fault .unterminatedSet ((← get).position - start)
    match ← next with
    | none => unterminated
    | some l =>
      if l = .plain ']' && !seen.isEmpty then return seen.reverse
      let low ← setMember l
      if ← accept '-' then
        match ← next with
        | none => unterminated
        | some (.plain ']') => return (.char 45 :: low :: seen).reverse
        | some l' =>
          let high ← setMember l'
          let written := l.written ++ '-' :: l'.written
          let bad {α : Type} : Reading α := fault (.badRange (String.ofList written)) written.length
          match low, high with
          | .char a, .char b =>
            if b < a then bad else setMembers start (.range a b :: seen) fuel
          | _, _ => bad
      else setMembers start (low :: seen) fuel

/-- The set after its opening bracket. -/
def setExpr : Reading Expr := do
  let start := (← get).position - 1
  let negated ← accept '^'
  let items ← setMembers start [] ((← get).rest.length + 1)
  match items.eraseDups with
  | [.char n] => return if negated then .notChar n else .char n
  | items => return .set negated items

/-! ### Repetitions -/

/-- The bounds in braces; none if the brace stands for itself. -/
def bracedBounds : Reading (Option (Nat × Option Nat)) := do
  let start ← get
  if (← peek) == some (.plain '\x7d') then return none
  let low ← takeWhile isAsciiDigit start.rest.length
  let high ← if ← accept ',' then takeWhile isAsciiDigit start.rest.length else pure low
  if !(← accept '\x7d') then
    set start
    return none
  let bound (digits : Text) : Reading Nat := do
    if digits.length > Decimal.digitLimit then fault .boundTooLong
    let n := numberOf 10 digits
    if n ≥ boundLimit then fault .boundTooLarge
    return n
  let least ← bound low
  if high.isEmpty then return some (least, none)
  let most ← bound high
  if most < least then fault .boundsReversed ((← get).position - start.position)
  return some (least, some most)

/-- The bounds that a repetition character stands for; none if it stands for itself. -/
def bounds (c : Char) : Reading (Option (Nat × Option Nat)) :=
  if c = '?' then return some (0, some 1)
  else if c = '*' then return some (0, none)
  else if c = '+' then return some (1, none)
  else bracedBounds

/-- The items so far, the last one first, with the last one repeated. `here` is the position after the
repetition character. -/
def repeatLast (seen : List Expr) (here : Nat) (low : Nat) (high : Option Nat) :
    Reading (List Expr) := do
  let offset := (← get).position - here + 1
  match seen with
  | [] | .anchor _ :: _ => fault .nothingToRepeat offset
  | .rep .. :: _ => fault .multipleRepeat offset
  | item :: rest =>
    if ← accept '?' then return .rep .lazy low high item :: rest
    else if ← accept '+' then return .rep .possessive low high item :: rest
    else return .rep .greedy low high item :: rest

/-- The name of a repetition in faults. -/
def Appetite.name : Appetite → String
  | greedy => "MAX_REPEAT"
  | lazy => "MIN_REPEAT"
  | possessive => "POSSESSIVE_REPEAT"

/-! ### Groups -/

/-- The flag that a letter stands for. -/
def flagOf? : Char → Option Flags
  | 'i' => some { ignoreCase := true }
  | 'm' => some { multiline := true }
  | 's' => some { dotAll := true }
  | 'x' => some { verbose := true }
  | 'a' => some { ascii := true }
  | 'u' => some { unicode := true }
  | 't' => some { once := true }
  | 'L' => some { locale := true }
  | _ => none

/-- The flags that choose what the classes know. -/
def isTypeFlag (c : Char) : Bool := c == 'a' || c == 'u' || c == 'L'

/-- The fault, if a flag is for texts and the expression is one of bytes, or the other way round. -/
def checkFlag (c : Char) : Reading Unit := do
  if (← get).ofBytes then
    if c = 'u' then fault (.badFlags "cannot use 'u' flag with a bytes pattern")
  else if c = 'L' then fault (.badFlags "cannot use 'L' flag with a str pattern")

/-- The fault of a piece that is no flag. -/
def notAFlag {α : Type} (l : Lexeme) (what : String) : Reading α :=
  match l with
  | .plain c => if isLetter c then fault .unknownFlag 1 else fault (.missing what) 1
  | _ => fault (.missing what) l.written.length

/-- The letters of flags to set, from `c` on, up to the piece after them. -/
def flagsOn (c : Char) (on : Flags) (types : Text) : Nat → Reading (Flags × Text × Char)
  | 0 => fault .tooDeep
  | fuel + 1 => do
    checkFlag c
    let on := on.adjust ((flagOf? c).getD {}) {}
    let types := if isTypeFlag c && !types.contains c then c :: types else types
    if isTypeFlag c && types.length > 1 then
      fault (.badFlags "flags 'a', 'u' and 'L' are incompatible")
    match ← next with
    | none => fault (.missing "-, : or )")
    | some l =>
      match l with
      | .plain d =>
        if d = ')' || d = '-' || d = ':' then return (on, types, d)
        else if (flagOf? d).isSome then flagsOn d on types fuel
        else notAFlag l "-, : or )"
      | _ => notAFlag l "-, : or )"

/-- The letters of flags to clear, from `c` on, up to the colon. -/
def flagsOff (c : Char) (off : Flags) : Nat → Reading Flags
  | 0 => fault .tooDeep
  | fuel + 1 => do
    if isTypeFlag c then fault (.badFlags "cannot turn off flags 'a', 'u' and 'L'")
    let off := off.adjust ((flagOf? c).getD {}) {}
    match ← next with
    | none => fault (.missing ":")
    | some l =>
      match l with
      | .plain d =>
        if d = ':' then return off
        else if (flagOf? d).isSome then flagsOff d off fuel
        else notAFlag l ":"
      | _ => notAFlag l ":"

/-- What an opening parenthesis begins. -/
inductive Opening where
  /-- Nothing that matches: a comment, or flags for the whole expression. -/
  | nothing
  /-- A whole item: a reference by name. -/
  | item (e : Expr)
  /-- A group, kept or not, named or not, with its flags. -/
  | group (kept : Bool) (name : Option Text) (on off : Flags)
  /-- A group that is matched once. -/
  | atomic
  /-- A look ahead or back. -/
  | look (behind negated : Bool)
  /-- A choice by whether a group has kept a text. -/
  | branch (index : Nat)

/-- The flags after a question mark, from the piece `c` on. `atStart` holds at the start of the whole
expression, and `start` is where the parenthesis stood. -/
def flagsOpening (c : Char) (atStart : Bool) (start : Nat) : Reading Opening := do
  let fuel := (← get).rest.length + 1
  let (on, types, last) ← if c = '-' then pure ({}, [], '-') else flagsOn c {} [] fuel
  if last = ')' then
    modify fun r => { r with flags := r.flags.adjust on {} }
    if !atStart then fault .lateFlags ((← get).position - start)
    return .nothing
  if on.once then fault (.badFlags "cannot turn on global flag") 1
  if last = ':' then
    return .group false none on (if types.contains 'u' then { ascii := true } else {})
  match ← next with
  | none => fault (.missing "flag")
  | some l =>
    match l with
    | .plain d =>
      if (flagOf? d).isNone then notAFlag l "flag"
      let off ← flagsOff d {} fuel
      if off.once then fault (.badFlags "cannot turn off global flag") 1
      let clash := (on.ignoreCase && off.ignoreCase) || (on.multiline && off.multiline) ||
        (on.dotAll && off.dotAll) || (on.verbose && off.verbose)
      if clash then fault (.badFlags "flag turned on and off") 1
      return .group false none on (if types.contains 'u' then { off with ascii := true } else off)
    | _ => notAFlag l "flag"

/-- Passes over a comment; `start` is where its parenthesis stood. -/
def skipComment (start : Nat) : Nat → Reading Unit
  | 0 => fault .tooDeep
  | fuel + 1 => do
    match ← peek with
    | none => fault .unterminatedComment ((← get).position - start)
    | some l =>
      advance
      if l = .plain ')' then return else skipComment start fuel

/-- The number of the group that a conditional asks for. -/
def conditionGroup : Reading Nat := do
  let name ← takeName ')' "group name"
  if isIdentifier name then
    match (← get).names.lookup name with
    | some index => return index
    | none => fault (.unknownGroupName (String.ofList name.quoted)) (name.length + 1)
  else
    let bad {α : Type} : Reading α :=
      fault (.badGroupName (String.ofList name.quoted)) (name.length + 1)
    let index ← match Decimal.integer? 10 name with
      | some n => if n < 0 then bad else pure n.toNat
      | none => bad
    if index = 0 then fault .badGroupNumber (name.length + 1)
    if index ≥ 1073741823 then fault (.noSuchGroup index) (name.length + 1)
    modify fun r =>
      if (r.demanded.lookup index).isSome then r
      else { r with demanded := r.demanded ++ [(index, r.position - name.length - 1)] }
    return index

/-- The opening after `(?P`. -/
def namedOpening : Reading Opening := do
  if ← accept '<' then
    let name ← takeName '>' "group name"
    if !isIdentifier name then fault (.badGroupName (String.ofList name.quoted)) (name.length + 1)
    return .group true (some name) {} {}
  if ← accept '=' then
    let name ← takeName ')' "group name"
    if !isIdentifier name then fault (.badGroupName (String.ofList name.quoted)) (name.length + 1)
    match (← get).names.lookup name with
    | none => fault (.unknownGroupName (String.ofList name.quoted)) (name.length + 1)
    | some index =>
      checkBackref index (name.length + 1)
      return .item (.backref index)
  match ← next with
  | none => fault .unexpectedEnd
  | some l =>
    fault (.unknownExtension (String.ofList ('?' :: 'P' :: l.written))) (l.written.length + 2)

/-- The opening after `(?<`. -/
def behindOpening : Reading Opening := do
  match ← next with
  | none => fault .unexpectedEnd
  | some (.plain '=') => return .look true false
  | some (.plain '!') => return .look true true
  | some l =>
    fault (.unknownExtension (String.ofList ('?' :: '<' :: l.written))) (l.written.length + 2)

/-- What the parenthesis at `start` begins. -/
def opening (atStart : Bool) (start : Nat) : Reading Opening := do
  if !(← accept '?') then return .group true none {} {}
  match ← next with
  | none => fault .unexpectedEnd
  | some l =>
    let unknown {α : Type} : Reading α :=
      fault (.unknownExtension (String.ofList ('?' :: l.written))) (l.written.length + 1)
    match l with
    | .plain c =>
      if c = 'P' then namedOpening
      else if c = ':' then return .group false none {} {}
      else if c = '#' then
        skipComment start ((← get).rest.length + 1)
        return .nothing
      else if c = '=' then return .look false false
      else if c = '!' then return .look false true
      else if c = '<' then behindOpening
      else if c = '(' then return .branch (← conditionGroup)
      else if c = '>' then return .atomic
      else if (flagOf? c).isSome || c = '-' then flagsOpening c atStart start
      else unknown
    | _ => unknown

/-! ### Sequences and choices -/

/-- The most groups that may be inside of each other. -/
def depthLimit : Nat := 490

/-- Reads what stands inside a group. -/
def inGroup {α : Type} (inner : Reading α) : Reading α := do
  if depthLimit ≤ (← get).depth then fault .tooDeep
  modify fun r => { r with depth := r.depth + 1 }
  let x ← inner
  modify fun r => { r with depth := r.depth - 1 }
  return x

/-- Passes over a comment up to the end of its line. -/
def skipLine : Nat → Reading Unit
  | 0 => return
  | fuel + 1 => do
    match ← next with
    | none | some (.plain '\n') => return
    | _ => skipLine fuel

/-- A blank that the verbose form passes over. -/
def isFreeBlank (c : Char) : Bool :=
  c == ' ' || c == '\t' || c == '\n' || c == '\r' || c == '\x0b' || c == '\x0c'

mutual

/-- A choice between sequences. `top` holds for the whole expression. -/
def choice (verbose top : Bool) : Nat → Reading Expr
  | 0 => fault .tooDeep
  | fuel + 1 => do
    let first ← sequence verbose top [] fuel
    return .choose (first :: (← furtherChoices verbose top fuel))

/-- The sequences after the first one of a choice. -/
def furtherChoices (verbose top : Bool) : Nat → Reading (List Expr)
  | 0 => fault .tooDeep
  | fuel + 1 => do
    if !(← accept '|') then return []
    let flags := (← get).flags
    let verbose := if top then flags.verbose else verbose
    let e ← sequence verbose false [] fuel
    return e :: (← furtherChoices verbose top fuel)

/-- A sequence of items, after those in `seen`, the last one first. `atStart` holds in the first
sequence of the whole expression. -/
def sequence (verbose atStart : Bool) (seen : List Expr) : Nat → Reading Expr
  | 0 => fault .tooDeep
  | fuel + 1 => do
    match ← peek with
    | none | some (.plain '|') | some (.plain ')') => return Expr.ofList (seen.reverse.flatMap Expr.parts)
    | some (.escaped c) =>
      advance
      let e ← itemEscape c
      sequence verbose atStart (e :: seen) fuel
    | some .dangling => fault .danglingEscape
    | some (.plain c) =>
      advance
      if verbose && isFreeBlank c then sequence verbose atStart seen fuel
      else if verbose && c = '#' then
        skipLine ((← get).rest.length + 1)
        sequence verbose atStart seen fuel
      else if c = '[' then
        let e ← setExpr
        sequence verbose atStart (e :: seen) fuel
      else if c = '*' || c = '+' || c = '?' || c = '\x7b' then
        let here := (← get).position
        match ← bounds c with
        | none => sequence verbose atStart (.char c.toNat :: seen) fuel
        | some (low, high) =>
          let seen ← repeatLast seen here low high
          sequence verbose atStart seen fuel
      else if c = '.' then sequence verbose atStart (.any :: seen) fuel
      else if c = '^' then sequence verbose atStart (.anchor .lineStart :: seen) fuel
      else if c = '$' then sequence verbose atStart (.anchor .lineEnd :: seen) fuel
      else if c = '(' then
        let start := (← get).position - 1
        let closed : Reading Unit := do
          if !(← accept ')') then fault .unterminatedGroup ((← get).position - start)
        match ← opening (atStart && seen.isEmpty) start with
        | .nothing =>
          let flags := (← get).flags
          let verbose := if atStart && seen.isEmpty then flags.verbose else verbose
          sequence verbose atStart seen fuel
        | .item e => sequence verbose atStart (e :: seen) fuel
        | .look behind negated =>
          let outer := (← get).lookBehind
          if behind && outer.isNone then
            modify fun r => { r with lookBehind := some r.groups.length }
          let body ← inGroup (choice verbose false fuel)
          if behind then modify fun r => { r with lookBehind := outer }
          closed
          sequence verbose atStart (.look behind negated body :: seen) fuel
        | .branch index =>
          checkDemand index
          let yes ← inGroup (sequence verbose false [] fuel)
          let no ← if ← accept '|' then
              let no ← inGroup (sequence verbose false [] fuel)
              if (← peek) == some (.plain '|') then fault .thirdBranch
              pure no
            else pure .empty
          closed
          sequence verbose atStart (.branch index yes no :: seen) fuel
        | .atomic =>
          let body ← inGroup (choice verbose false fuel)
          closed
          sequence verbose atStart (.atomic body :: seen) fuel
        | .group kept name on off =>
          let index ← if kept then (some ·) <$> openGroup name else pure none
          let body ← inGroup (choice ((verbose || on.verbose) && !off.verbose) false fuel)
          closed
          if let some index := index then closeGroup index body
          sequence verbose atStart (.group index on off body :: seen) fuel
      else sequence verbose atStart (.char c.toNat :: seen) fuel

end

/-- The whole expression with its flags. -/
def wholeExpr : Reading Expr := do
  let r ← get
  set (← checkDangling r)
  let e ← choice r.flags.verbose true (2 * r.rest.length + 3)
  let flags := (← get).flags
  if flags.ascii && flags.unicode then throw ⟨.typesClash "UNICODE", none⟩
  if flags.ascii && flags.locale then throw ⟨.typesClash "LOCALE", none⟩
  if (← peek).isSome then fault .unbalanced
  let r ← get
  match r.demanded.find? (·.1 ≥ r.groups.length) with
  | some (index, position) => throw ⟨.noSuchGroup index, some position⟩
  | none =>
    match e.misuse? r.groupWidth r.flags.once with
    | some .lookBehind => throw ⟨.lookBehindWidth, none⟩
    | some .farBehind => throw ⟨.lookBehindTooFar, none⟩
    | some (.repetition a) => throw ⟨.repetitionRefused a.name, none⟩
    | none => return e

/-- Reads the text of an expression under the given flags. -/
def Expr.ofText (source : Text) (flags : Flags) (ofBytes : Bool := false) : Except Fault (Expr × Flags) :=
  (wholeExpr.run
    { source, ofBytes, rest := Lexeme.ofText source, position := 0, groups := [none], names := [],
      lookBehind := none, demanded := [], flags }).map fun (e, r) => (e, r.flags)

end Copyedit.Regex
