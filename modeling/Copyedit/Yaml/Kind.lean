import Copyedit.Text.Basic
import Copyedit.Value.Basic

/-!
# Kinds of scalars

A plain scalar is more than a text if it is written like a truth value, a number, a date or nothing. This
module says how each of these is written. All forms are of ASCII characters, and a newline at the very
end does not count.
-/

namespace Copyedit.Yaml

/-- The kind of a node, which its tag or else its form tells. -/
inductive Kind where
  /-- Nothing. -/
  | null
  /-- A truth value. -/
  | bool
  /-- An integer. -/
  | int
  /-- A number with a fraction. -/
  | float
  /-- Bytes. -/
  | binary
  /-- A date or a time. -/
  | timestamp
  /-- An ordered mapping. -/
  | omap
  /-- A list of pairs. -/
  | pairs
  /-- A set. -/
  | set
  /-- A text. -/
  | text
  /-- A list. -/
  | list
  /-- A mapping. -/
  | map
  /-- The key under which another mapping is merged. -/
  | merge
  /-- The key of the value that a mapping stands for. -/
  | default
  /-- No kind that is known. -/
  | unknown
  deriving DecidableEq, Repr

namespace Kind

/-- The start of the tags of all kinds. -/
def tagStart : Text := "tag:yaml.org,2002:".toList

/-- The names of the kinds in tags. -/
def names : List (String × Kind) :=
  [("null", null), ("bool", bool), ("int", int), ("float", float), ("binary", binary),
    ("timestamp", timestamp), ("omap", omap), ("pairs", pairs), ("set", set), ("str", text),
    ("seq", list), ("map", map), ("merge", merge), ("value", default)]

/-- The kind that a tag tells. -/
def ofTag (tag : Text) : Kind :=
  ((names.find? fun e => tag = tagStart ++ e.1.toList).map (·.2)).getD unknown

end Kind

/-! ### Forms -/

/-- Whether a character is a decimal digit of ASCII. -/
def isDigitChar (c : Char) : Bool := '0' ≤ c && c ≤ '9'

/-- Whether a character is such a digit or an underscore. -/
def isSpacedDigit (c : Char) : Bool := isDigitChar c || c = '_'

/-- Whether a text is not empty and all its characters satisfy `p`. -/
def isRun (p : Char → Bool) (t : Text) : Bool := !t.isEmpty && t.all p

/-- The text without a sign. -/
def withoutSign : Text → Text
  | '+' :: rest => rest
  | '-' :: rest => rest
  | t => t

/-- Whether a text is one or two digits, below 60. -/
def isSixtieth : Text → Bool
  | [a] => isDigitChar a
  | [a, b] => '0' ≤ a && a ≤ '5' && isDigitChar b
  | _ => false

/-- Whether a text writes a truth value. -/
def isTruthText (t : Text) : Bool :=
  ["yes", "Yes", "YES", "no", "No", "NO", "true", "True", "TRUE", "false", "False", "FALSE", "on", "On",
    "ON", "off", "Off", "OFF"].any fun w => t = w.toList

/-- Whether a text writes nothing. -/
def isNullText (t : Text) : Bool := ["", "~", "null", "Null", "NULL"].any fun w => t = w.toList

/-- Whether a text writes an integer: binary, octal, decimal, hexadecimal or in sixtieths. -/
def isIntText (t : Text) : Bool :=
  match withoutSign t with
  | '0' :: 'b' :: rest => isRun (fun c => c = '0' || c = '1' || c = '_') rest
  | '0' :: 'x' :: rest =>
    isRun (fun c => isSpacedDigit c || ('a' ≤ c && c ≤ 'f') || ('A' ≤ c && c ≤ 'F')) rest
  | '0' :: rest => rest.all fun c => ('0' ≤ c && c ≤ '7') || c = '_'
  | c :: rest =>
    isDigitChar c &&
      match Text.splitAtChar ':' rest with
      | [] => false
      | first :: parts => first.all isSpacedDigit && parts.all isSixtieth
  | [] => false

/-- Whether a text is empty or an exponent with a sign. -/
def isExponentText : Text → Bool
  | [] => true
  | e :: s :: rest => (e = 'e' || e = 'E') && (s = '+' || s = '-') && isRun isDigitChar rest
  | _ => false

/-- Whether a text is what may follow the point of a number. -/
def isFractionText (t : Text) : Bool := isExponentText (t.dropWhile isSpacedDigit)

/-- Whether a text writes a number with a fraction. -/
def isFloatText (t : Text) : Bool :=
  let body := withoutSign t
  if [".inf", ".Inf", ".INF"].any fun w => body = w.toList then true
  else if [".nan", ".NaN", ".NAN"].any fun w => t = w.toList then true
  else match t with
    | '.' :: c :: rest => isDigitChar c && isFractionText rest
    | _ =>
      match body with
      | c :: _ =>
        isDigitChar c &&
          match Text.splitAtChar ':' body with
          | [whole] => match whole.dropWhile isSpacedDigit with
            | '.' :: rest => isFractionText rest
            | _ => false
          | first :: parts =>
            first.all isSpacedDigit && parts.dropLast.all isSixtieth &&
              match (parts.getLast?.getD []).span (· ≠ '.') with
              | (last, '.' :: rest) => isSixtieth last && rest.all isSpacedDigit
              | _ => false
          | [] => false
      | [] => false

/-! ### Dates and times -/

/-- A date with, possibly, a time as it is written. -/
structure TimeParts where
  /-- The digits of year, month and day. -/
  date : Text × Text × Text
  /-- The digits of hour, minute, second and fraction. -/
  time : Option (Text × Text × Text × Text)
  /-- Whether the zone is universal time, or else the sign and the digits of its hours and minutes. -/
  zone : Option (Option (Char × Text × Text))

/-- Digits at the start of a text, between `least` and `most` of them, and what follows. -/
def digits? (least most : Nat) (t : Text) : Option (Text × Text) :=
  let run := (t.takeWhile isDigitChar).take most
  if run.length < least then none else some (run, t.drop run.length)

/-- What follows a character that a text starts with. -/
def after? (c : Char) : Text → Option Text
  | x :: rest => if x = c then some rest else none
  | [] => none

/-- A zone at the end of a time; empty if there is none. -/
def zone? (t : Text) : Option (Option (Option (Char × Text × Text))) :=
  match t with
  | [] => some none
  | _ =>
    match t.dropWhile fun c => c = ' ' || c = '\t' with
    | ['Z'] => some (some none)
    | sign :: rest =>
      if sign = '+' || sign = '-' then do
        let (hours, rest) ← digits? 1 2 rest
        match rest with
        | [] => return some (some (sign, hours, []))
        | ':' :: rest =>
          let (minutes, rest) ← digits? 2 2 rest
          if rest.isEmpty then return some (some (sign, hours, minutes)) else none
        | _ => none
      else none
    | [] => none

/-- A time after its separator, with its zone. -/
def clock? (t : Text) : Option ((Text × Text × Text × Text) × Option (Option (Char × Text × Text))) := do
  let (hour, rest) ← digits? 1 2 t
  let (minute, rest) ← digits? 2 2 (← after? ':' rest)
  let (second, rest) ← digits? 2 2 (← after? ':' rest)
  let (fraction, rest) := match rest with
    | '.' :: rest => (rest.takeWhile isDigitChar, rest.dropWhile isDigitChar)
    | _ => ([], rest)
  return ((hour, minute, second, fraction), ← zone? rest)

/-- A date or a time as it is written. -/
def timeParts? (t : Text) : Option TimeParts := do
  let (year, rest) ← digits? 4 4 t
  let (month, rest) ← digits? 1 2 (← after? '-' rest)
  let (day, rest) ← digits? 1 2 (← after? '-' rest)
  match rest with
  | [] => return ⟨(year, month, day), none, none⟩
  | c :: rest' =>
    let rest ←
      if c = 'T' || c = 't' then some rest'
      else if c = ' ' || c = '\t' then some (rest'.dropWhile fun c => c = ' ' || c = '\t')
      else none
    let (time, zone) ← clock? rest
    return ⟨(year, month, day), some time, zone⟩

/-- Whether a text writes a date or a time. A date alone has two digits for month and day. -/
def isTimeText (t : Text) : Bool :=
  match timeParts? t with
  | some p => p.time.isSome || (p.date.2.1.length = 2 && p.date.2.2.length = 2)
  | none => false

/-! ### The kind of a plain scalar -/

/-- The text without a newline at its very end. -/
def withoutFinalBreak (t : Text) : Text := if t.getLast? = some '\n' then t.dropLast else t

/-- The kind that the form of a plain scalar tells. The marks of tags, names and aliases alone stand for no
value. -/
def Kind.ofPlain (t : Text) : Kind :=
  if t = ['\n'] then .text
  else
    let t := withoutFinalBreak t
    if isTruthText t then .bool
    else if isFloatText t then .float
    else if isIntText t then .int
    else if t = ['<', '<'] then .merge
    else if isNullText t then .null
    else if isTimeText t then .timestamp
    else if t = ['='] then .default
    else if t = ['!'] || t = ['&'] || t = ['*'] then .unknown
    else .text

end Copyedit.Yaml
