import Copyedit.Error
import Copyedit.Text.Numerals
import Copyedit.Text.Quoted

/-!
# Templates with fields

A template holds names in braces, for which values are put in; a brace written twice stands for itself.
Braces that do not match, names without a value, and fields that count positions are errors, of which
the first one is reported.
-/

namespace Copyedit

/-- The largest position that a field can count. -/
def positionLimit : Nat := Nat.pow 2 63 - 1

/-- The value of a field of a template. -/
def fieldValue (values : List (String × Text)) (name : Text) : Except Error Text :=
  if positionLimit < numberOf (name.takeWhile isDecimal) then .error (.value .positionTooLarge)
  else if name.all isDecimal then .error (.range (.field (numberOf name)))
  else match values.lookup (String.ofList name) with
    | some t => .ok t
    | none => .error (.key (String.ofList name.quoted))

/-- A template from here on, with the values put in. `field` is the name so far inside a field. -/
def fillFrom (values : List (String × Text)) : Option Text → Text → Except Error Text
  | none, [] => .ok []
  | none, ['\x7b'] => .error (.value .loneOpen)
  | none, '\x7b' :: '\x7b' :: rest => do return '\x7b' :: (← fillFrom values none rest)
  | none, '\x7b' :: rest => fillFrom values (some []) rest
  | none, '\x7d' :: '\x7d' :: rest => do return '\x7d' :: (← fillFrom values none rest)
  | none, '\x7d' :: _ => .error (.value .loneClose)
  | none, c :: rest => do return c :: (← fillFrom values none rest)
  | some _, [] => .error (.value .openField)
  | some _, '\x7b' :: _ => .error (.value .nestedOpen)
  | some name, '\x7d' :: rest => do
    let value ← fieldValue values name
    return value ++ (← fillFrom values none rest)
  | some name, c :: rest => fillFrom values (some (name ++ [c])) rest

/-- A template with the values of its fields put in. -/
def fill (values : List (String × Text)) (template : Text) : Except Error Text :=
  fillFrom values none template

end Copyedit
