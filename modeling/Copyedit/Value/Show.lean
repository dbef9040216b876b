import Copyedit.Value.Basic
import Copyedit.Decimal.Integer
import Copyedit.Decimal.Shortest
import Copyedit.Text.Quoted

/-!
# Values as text

A value appears in two forms: shown, when it stands for a text of its own (a token, an identifier), and
quoted, when a message cites it. Only texts, dates and times differ between the two. A value in neither form
is one with too long an integer, or with too many values inside of each other (`Value.writeFault?`).
-/

namespace Copyedit

/-- `,` and a space between parts. -/
def commaJoin (parts : List String) : String := ", ".intercalate parts

/-- Integers in parentheses; a single one is followed by a comma. -/
def showTuple (items : List Int) : String :=
  match items with
  | [n] => "(" ++ toString n ++ ",)"
  | _ => "(" ++ commaJoin (items.map toString) ++ ")"

namespace Date

/-- Year, month and day with hyphens. -/
def shown (d : Date) : String :=
  Decimal.padded 4 d.year ++ "-" ++ Decimal.padded 2 d.month ++ "-" ++ Decimal.padded 2 d.day

/-- The date as a message cites it. -/
def quoted (d : Date) : String := s!"datetime.date({d.year}, {d.month}, {d.day})"

end Date

namespace Moment

/-- The time with colons, then the offset. -/
def shown (m : Moment) : String :=
  m.date.shown ++ " " ++ Decimal.padded 2 m.hour ++ ":" ++ Decimal.padded 2 m.minute ++ ":" ++
    Decimal.padded 2 m.second ++ (if m.micros = 0 then "" else "." ++ Decimal.padded 6 m.micros) ++
    match m.offset with
    | none => ""
    | some o => (if o < 0 then "-" else "+") ++ Decimal.padded 2 (o.natAbs / 60) ++ ":" ++
      Decimal.padded 2 (o.natAbs % 60)

/-- The time as a message cites it. -/
def quoted (m : Moment) : String :=
  let parts := [m.date.year, m.date.month, m.date.day, m.hour, m.minute] ++
    (if m.second = 0 && m.micros = 0 then [] else [m.second]) ++
    (if m.micros = 0 then [] else [m.micros])
  let zone := match m.offset with
    | none => []
    | some 0 => ["tzinfo=datetime.timezone.utc"]
    | some o =>
      let span := if o < 0 then "days=-1, seconds=" ++ toString (86400 + o * 60)
        else "seconds=" ++ toString (o * 60)
      ["tzinfo=datetime.timezone(datetime.timedelta(" ++ span ++ "))"]
  "datetime.datetime(" ++ commaJoin (parts.map toString ++ zone) ++ ")"

end Moment

namespace Value

/-- Bytes as a message cites them. -/
def quoteBytes (bs : List Nat) : String :=
  let mark := Text.quoteMark (bs.map Char.ofNat)
  let one (n : Nat) : Text :=
    if n < 128 then Text.escapeChar mark (Char.ofNat n) else '\\' :: 'x' :: hexDigits 2 n
  "b" ++ String.ofList (mark :: bs.flatMap one ++ [mark])

mutual

/-- The value as a message cites it. Of a list or mapping that stands inside of those with the numbers
`around`, nothing is shown but what it is. -/
def quotedIn (around : List Nat) : Value → String
  | null => "None"
  | bool b => if b then "True" else "False"
  | int n => toString n
  | real x => Decimal.text x
  | text s => quoteString s
  | date d => d.quoted
  | moment m => m.quoted
  | bytes bs => quoteBytes bs
  | list items => "[" ++ commaJoin (quotedItems around items) ++ "]"
  | pair k v => "(" ++ quotedIn around k ++ ", " ++ quotedIn around v ++ ")"
  | map entries => "\x7b" ++ commaJoin (quotedEntries around entries) ++ "\x7d"
  | set [] => "set()"
  | set items => "\x7b" ++ commaJoin (quotedItems around items) ++ "\x7d"
  | loop id v =>
    if around.contains id then (if v.kindName = "list" then "[...]" else "\x7b...\x7d")
    else quotedIn (id :: around) v

/-- The items of a list as a message cites them. -/
def quotedItems (around : List Nat) : List Value → List String
  | [] => []
  | v :: rest => quotedIn around v :: quotedItems around rest

/-- The entries of a mapping as a message cites them. -/
def quotedEntries (around : List Nat) : List (Value × Value) → List String
  | [] => []
  | (k, v) :: rest => (quotedIn around k ++ ": " ++ quotedIn around v) :: quotedEntries around rest

end

/-- The value as a message cites it. -/
def quoted (v : Value) : String := quotedIn [] v

/-- Why a value is not written. -/
inductive WriteFault where
  /-- It holds an integer of more digits than are written. -/
  | tooManyDigits
  /-- Too many values stand inside of each other. -/
  | tooDeep
  deriving DecidableEq, Repr

/-- The most values that may stand inside of each other where they are written. -/
def depthLimit : Nat := 990

mutual

/-- Why a value is not written, if it is not, where `room` values may still stand inside of each other, and
the lists and mappings with the numbers `around` stand around it. What comes first as it is written counts. -/
def writeFaultIn (around : List Nat) (room : Nat) : Value → Option WriteFault
  | int n => if room = 0 then some .tooDeep else if Decimal.isWritable n then none else some .tooManyDigits
  | list items => if room = 0 then some .tooDeep else itemsFaultIn around (room - 1) items
  | pair k v => if room = 0 then some .tooDeep
    else (writeFaultIn around (room - 1) k).or (writeFaultIn around (room - 1) v)
  | map entries => if room = 0 then some .tooDeep else entriesFaultIn around (room - 1) entries
  -- the items of a set are written as a list
  | set items => if room = 0 || (room = 1 && !items.isEmpty) then some .tooDeep
    else itemsFaultIn around (room - 2) items
  | loop id v => if room = 0 then some .tooDeep
    else if around.contains id then none else writeFaultIn (id :: around) room v
  | _ => if room = 0 then some .tooDeep else none

/-- Why the items of a list are not all written. -/
def itemsFaultIn (around : List Nat) (room : Nat) : List Value → Option WriteFault
  | [] => none
  | v :: rest => (writeFaultIn around room v).or (itemsFaultIn around room rest)

/-- Why the entries of a mapping are not all written. -/
def entriesFaultIn (around : List Nat) (room : Nat) : List (Value × Value) → Option WriteFault
  | [] => none
  | (k, v) :: rest =>
    (writeFaultIn around room k).or ((writeFaultIn around room v).or (entriesFaultIn around room rest))

end

/-- Why a value is not written, if it is not. -/
def writeFault? (v : Value) : Option WriteFault := writeFaultIn [] depthLimit v

/-- The value as a text of its own. -/
def shown : Value → String
  | text s => s
  | date d => d.shown
  | moment m => m.shown
  | v => v.quoted

/-- Whether `a` sorts before `b`; none if they have no order. Pairs differ in what comes first. -/
def precedes? : Value → Value → Option Bool
  | text a, text b => some (a < b)
  | date a, date b => some (a.dayNumber < b.dayNumber)
  | moment a, moment b => a.isBefore? b
  | bytes a, bytes b => some (a < b)
  | pair a b, pair c d =>
    if !sameKey a c then precedes? a c else if sameKey b d then some false else precedes? b d
  | a, b => match a.integer?, b.integer? with
    | some m, some n => some (m < n)
    | _, _ => match a.number?, b.number? with
      | some x, some y => some (x < y)
      | _, _ => none

/-- Whether `a` is at most `b`; none if the two kinds have no order. -/
def atMost? (a b : Value) : Option Bool :=
  match a.number?, b.number? with
  | some x, some y => match a.integer?, b.integer? with
    | some m, some n => some (m ≤ n)
    | _, _ => some (x ≤ y)
  | _, _ => (precedes? b a).map not

/-- Puts a value before the first one that it precedes. Two values that have no order are an error. -/
def insertSorted (v : Value) : List Value → Except (Value × Value) (List Value)
  | [] => .ok [v]
  | w :: rest => match precedes? v w with
    | none => .error (v, w)
    | some true => .ok (v :: w :: rest)
    | some false => do return w :: (← insertSorted v rest)

/-- The values in order, unless two of them have none. -/
def sorted : List Value → Except (Value × Value) (List Value)
  | [] => .ok []
  | v :: rest => do insertSorted v (← sorted rest)

end Value

end Copyedit
