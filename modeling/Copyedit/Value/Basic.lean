/-!
# Values

What a rule file holds once it is read: scalars of several kinds, lists, and mappings whose entries keep
the order in which their keys first came. Two keys are the same if their values are equal, numbers and
truth values being compared as numbers, and times of known offset by universal time; what is no number is
the same key as itself.
-/

namespace Copyedit

/-- A calendar date. -/
structure Date where
  /-- The year. -/
  year : Nat
  /-- The month, from 1. -/
  month : Nat
  /-- The day, from 1. -/
  day : Nat
  deriving DecidableEq, Repr

namespace Date

/-- Whether a year is a leap year. -/
def isLeap (year : Nat) : Bool := year % 4 = 0 && (year % 100 ≠ 0 || year % 400 = 0)

/-- The number of days of a month. -/
def daysIn (year month : Nat) : Nat :=
  if month = 2 then (if isLeap year then 29 else 28)
  else if [4, 6, 9, 11].contains month then 30
  else 31

/-- The number of the day, the first day of the year 1 being 1. -/
def dayNumber (d : Date) : Nat :=
  let years := d.year - 1
  years * 365 + years / 4 - years / 100 + years / 400 +
    (List.range' 1 (d.month - 1)).foldl (fun days month => days + daysIn d.year month) 0 + d.day

end Date

/-- A date with a time of day and, where it is known, the offset from universal time in minutes. -/
structure Moment where
  /-- The day. -/
  date : Date
  /-- The hour. -/
  hour : Nat
  /-- The minute. -/
  minute : Nat
  /-- The second. -/
  second : Nat
  /-- The millionths of a second. -/
  micros : Nat
  /-- Minutes east of universal time. -/
  offset : Option Int
  deriving DecidableEq, Repr

namespace Moment

/-- The millionths of a second that the calendar and the clock show, from the year 1 on. -/
def clock (m : Moment) : Nat :=
  (((m.date.dayNumber * 24 + m.hour) * 60 + m.minute) * 60 + m.second) * 1000000 + m.micros

/-- The same in universal time, where the offset from it is known. -/
def instant? (m : Moment) : Option Int := m.offset.map fun o => (m.clock : Int) - o * 60000000

/-- Whether two times are one. A time of known offset is never one of unknown offset. -/
def isSame (a b : Moment) : Bool :=
  match a.instant?, b.instant? with
  | some s, some t => s == t
  | none, none => a.clock == b.clock
  | _, _ => false

/-- Whether `a` is before `b`; none if the offset of only one of them is known. -/
def isBefore? (a b : Moment) : Option Bool :=
  match a.instant?, b.instant? with
  | some s, some t => some (s < t)
  | none, none => some (a.clock < b.clock)
  | _, _ => none

end Moment

/-- A value of a rule file. -/
inductive Value where
  /-- Nothing. -/
  | null
  /-- A truth value. -/
  | bool (b : Bool)
  /-- An integer. -/
  | int (n : Int)
  /-- A number with a fraction. -/
  | real (x : Float)
  /-- A text. -/
  | text (s : String)
  /-- A date. -/
  | date (d : Date)
  /-- A date with a time. -/
  | moment (m : Moment)
  /-- Raw bytes. -/
  | bytes (bs : List Nat)
  /-- A list. -/
  | list (items : List Value)
  /-- A key with its value, as an item of an ordered mapping. -/
  | pair (key value : Value)
  /-- A mapping. -/
  | map (entries : List (Value × Value))
  /-- A set. -/
  | set (items : List Value)
  /-- A list or a mapping that stands inside itself: its number, which tells where it stands again, and what
  it holds as far as it is unrolled. -/
  | loop (id : Nat) (v : Value)
  deriving Inhabited

namespace Value

/-- The name of the kind of value. -/
def kindName : Value → String
  | null => "NoneType"
  | bool _ => "bool"
  | int _ => "int"
  | real _ => "float"
  | text _ => "str"
  | date _ => "date"
  | moment _ => "datetime"
  | bytes _ => "bytes"
  | list _ => "list"
  | pair .. => "tuple"
  | map _ => "dict"
  | set _ => "set"
  | loop _ v => v.kindName

/-- The name of the kind of value with the family of dates and times. -/
def longKindName : Value → String
  | date _ => "datetime.date"
  | moment _ => "datetime.datetime"
  | v => v.kindName

/-- The value itself where it stands inside itself. -/
def bare : Value → Value
  | loop _ v => v
  | v => v

/-- Whether a value is nothing. -/
def isNull : Value → Bool
  | null => true
  | _ => false

/-- Whether a value counts as given: all do but null, false, zero and what is empty. -/
def truthy : Value → Bool
  | null => false
  | bool b => b
  | int n => n != 0
  | real x => x != 0
  | text s => !s.isEmpty
  | bytes bs => !bs.isEmpty
  | list items => !items.isEmpty
  | map entries => !entries.isEmpty
  | set items => !items.isEmpty
  | loop _ v => v.truthy
  | _ => true

/-- Whether a value can be the key of a mapping. -/
def canBeKey : Value → Bool
  | list _ | map _ | set _ | loop .. => false
  | pair k v => canBeKey k && canBeKey v
  | _ => true

/-- The number that a value stands for: truth values are 0 and 1. -/
def number? : Value → Option Float
  | bool b => some (if b then 1 else 0)
  | int n => some (if n < 0 then -(Float.ofNat n.natAbs) else Float.ofNat n.natAbs)
  | real x => some x
  | _ => none

/-- The integer that a value stands for: truth values are 0 and 1. -/
def integer? : Value → Option Int
  | bool b => some (if b then 1 else 0)
  | int n => some n
  | _ => none

/-- Whether two values are the same key. -/
def sameKey : Value → Value → Bool
  | null, null => true
  | text a, text b => a == b
  | date a, date b => a == b
  | moment a, moment b => a.isSame b
  | bytes a, bytes b => a == b
  | pair a b, pair c d => sameKey a c && sameKey b d
  | a, b => match a.integer?, b.integer? with
    | some m, some n => m == n
    | _, _ => match a.number?, b.number? with
      | some x, some y => x == y || (x.isNaN && y.isNaN)
      | _, _ => false

/-- Whether a value is the truth value `b`, or the number that stands for it. -/
def isTruth (b : Bool) (v : Value) : Bool := sameKey (.bool b) v

/-- Puts a key with its value into entries; a key that is there keeps its place. -/
def put {α : Type} (entries : List (Value × α)) (key : Value) (value : α) : List (Value × α) :=
  match entries with
  | [] => [(key, value)]
  | e :: rest => if sameKey e.1 key then (e.1, value) :: rest else e :: put rest key value

/-- The value under a text key. -/
def get? (entries : List (Value × Value)) (key : String) : Option Value :=
  (entries.find? fun e => sameKey e.1 (.text key)).map (·.2)

/-- The entries without a text key. -/
def without (entries : List (Value × Value)) (key : String) : List (Value × Value) :=
  entries.filter fun e => !sameKey e.1 (.text key)

end Value

end Copyedit
