import Copyedit.Regex.Fault
import Copyedit.Value.Show

/-!
# Errors

Everything that can go wrong, by cause: a definition or setting that is refused when it is built, a
resource that cannot be had, and what can fail while a rule runs over tokens that lack what it asks for.
`Error.message` gives the wording of each.
-/

namespace Copyedit

/-- A place in the definitions of a rule file. -/
structure Place where
  /-- The identifier of the rule. -/
  rule : String
  /-- The element of its pattern, from 1. -/
  element : Option Nat := none
  /-- The exception of that element, from 1. -/
  exception : Option Nat := none
  deriving DecidableEq, Repr

/-- The place as messages name it. -/
def Place.shown (p : Place) : String :=
  "rule " ++ p.rule ++
    (match p.element with | none => "" | some n => s!", element {n}") ++
    (match p.exception with | none => "" | some n => s!", exception {n}")

/-- A value that is not of the kind that an operation needs. -/
inductive KindFault where
  /-- Not a collection. -/
  | notIterable (kind : String)
  /-- Two values without an order. -/
  | notOrdered (comparison left right : String)
  /-- A time and a date, which have no order. -/
  | notComparable (left right : String)
  /-- Two times of which only one has a known offset. -/
  | mixedOffsets
  /-- Not a text, where an expression is matched. -/
  | notText (kind : String)
  /-- Bytes, where an expression for texts is matched. -/
  | bytesForText
  /-- A text, where an expression for bytes is matched. -/
  | textForBytes
  /-- No expression. -/
  | notExpression
  /-- Without a length. -/
  | noLength (kind : String)
  /-- Not to be used as a key. -/
  | notKey (kind : String)
  /-- An item that is not a text among texts to be joined. -/
  | notJoinable (index : Nat) (kind : String)
  /-- Not a position in a list. -/
  | notPosition (kind : String)
  /-- Not a text, where one is composed. -/
  | notComposable
  /-- Not a number that can be added to. -/
  | notAddable (left right : String)

/-- The wording of a kind fault. -/
def KindFault.message : KindFault → String
  | notIterable k => s!"'{k}' object is not iterable"
  | notOrdered op a b => s!"'{op}' not supported between instances of '{a}' and '{b}'"
  | notComparable a b => s!"can't compare {a} to {b}"
  | mixedOffsets => "can't compare offset-naive and offset-aware datetimes"
  | notText k => s!"expected string or bytes-like object, got '{k}'"
  | bytesForText => "cannot use a string pattern on a bytes-like object"
  | textForBytes => "cannot use a bytes pattern on a string-like object"
  | notExpression => "first argument must be string or compiled pattern"
  | noLength k => s!"object of type '{k}' has no len()"
  | notKey k => s!"unhashable type: '{k}'"
  | notJoinable i k => s!"sequence item {i}: expected str instance, {k} found"
  | notPosition k => s!"list indices must be integers or slices, not {k}"
  | notComposable => "normalize() argument 2 must be str, not None"
  | notAddable a b => s!"unsupported operand type(s) for -: '{a}' and '{b}'"

/-- The fault of sorting two values that have no order. -/
def KindFault.ofUnordered (a b : Value) : KindFault :=
  match a, b with
  | .moment _, .moment _ => .mixedOffsets
  | .moment _, .date _ | .date _, .moment _ => .notComparable "datetime.datetime" "datetime.date"
  | a, b => .notOrdered "<" a.longKindName b.longKindName

/-- The file formats that are read. -/
inductive FileKind where
  /-- A list of words. -/
  | wordList
  /-- A file of pattern rules. -/
  | rules
  /-- A table of replacements. -/
  | replacements
  deriving DecidableEq, Repr

/-- The name of a file format. -/
def FileKind.shown : FileKind → String
  | wordList => "word list"
  | rules => "rule file"
  | replacements => "replacement file"

/-- What is wrong with a definition or a setting. -/
inductive Defect where
  /-- A locale without a name. -/
  | emptyLocale
  /-- A setting below its least value. -/
  | settingTooSmall (name : String) (least got : Int)
  /-- No distances to try. -/
  | noDistances
  /-- A distance that is not positive. -/
  | distancesNotPositive (got : List Int)
  /-- Distances that do not ascend. -/
  | distancesNotAscending (got : List Int)
  /-- A way to treat failures that is not known. -/
  | unknownFailureMode (got : Value)
  /-- Distances of a spelling rule that are not positive and ascending. -/
  | badDistances (got : List Int)
  /-- An argument outside its bound. -/
  | argument (name bound : String) (got : Int)
  /-- Fewer than no occurrences. -/
  | leastNegative (got : Value)
  /-- A greatest number of occurrences that is no number of occurrences. -/
  | mostInvalid (got : Value)
  /-- The least number of occurrences above the greatest. -/
  | leastAboveMost (least most : Value)
  /-- A constraint that constrains nothing. -/
  | emptyConstraint (what : String)
  /-- A scope that is not known. -/
  | unknownScope (got : Value)
  /-- An expression that cannot be read. -/
  | badExpression (what : String) (written : Value) (reason : String)
  /-- A rule without an identifier. -/
  | noIdentifier
  /-- A rule without elements. -/
  | noElements (rule : String)
  /-- A rule whose elements are all optional. -/
  | onlyOptional (rule : String)
  /-- A reference to an element that is not there. -/
  | noSuchElement (rule what : String) (got : Value) (count : Nat)
  /-- A sample that is not a text. -/
  | sampleNotText (rule : String) (got : Value)
  /-- A conversion without a text to convert. -/
  | conversionWithoutSource (rule : String)
  /-- A reference in a template to an element that is not there. -/
  | badReference (rule : String) (digits template : Text)
  /-- A wrong word without a replacement. -/
  | noReplacement (rule : String) (wrong : Text)
  /-- A line of a replacement table without exactly one equals sign. -/
  | badReplacementLine (source : String) (line : Nat) (got : Text)
  /-- A line of a replacement table with an empty side. -/
  | emptyReplacementLine (source : String) (line : Nat) (got : Text)
  /-- A definition that is not a mapping. -/
  | notMapping (place : Option Place) (kind : String)
  /-- Keys that no definition has. -/
  | unknownKeys (place : Place) (keys : List Value)
  /-- A key that every definition has. -/
  | missingKey (place : Place) (key : String)
  /-- A pattern that is not a list. -/
  | patternNotList (place : Place)
  /-- Exceptions that are not a list. -/
  | exceptionsNotList (place : Place)
  /-- A case conversion that is not known. -/
  | unknownConversion (place : Place) (got : Value) (known : List String)
  /-- Definitions that are not a list. -/
  | rulesNotList
  /-- Two rules with one identifier. -/
  | duplicateRule (rule : String)
  /-- A rule with a value of the wrong kind. -/
  | wrongKind (place : Place) (fault : KindFault)
  /-- A rule file that does not follow the notation. -/
  | malformedFile (name : String)
  /-- Scores asked for without a model. -/
  | noModel

/-- The wording of a defect. -/
def Defect.message : Defect → String
  | emptyLocale => "Locale cannot be empty."
  | settingTooSmall name least got => s!"{name} must be >= {least}, got {got}"
  | noDistances => "speller_distances must not be empty"
  | distancesNotPositive got => "speller_distances must be positive, got " ++ showTuple got
  | distancesNotAscending got =>
    "speller_distances must be strictly ascending, got " ++ showTuple got
  | unknownFailureMode got =>
    "on_rule_error must be one of ('warn', 'skip', 'raise'), got " ++ got.quoted
  | badDistances got => "distances must be positive and strictly ascending: " ++ showTuple got
  | argument name bound got => s!"{name} must be {bound}: {got}"
  | leastNegative got => "min_occurrences must be >= 0: " ++ got.shown
  | mostInvalid got => "max_occurrences must be positive or -1 (unbounded): " ++ got.shown
  | leastAboveMost least most =>
    "min_occurrences (" ++ least.shown ++ ") > max_occurrences (" ++ most.shown ++ ")"
  | emptyConstraint what => what ++ " needs a token, pos_tag or lemma"
  | unknownScope got => "Invalid exception scope: " ++ got.quoted
  | badExpression what written reason =>
    "Invalid " ++ what ++ " regex " ++ written.quoted ++ ": " ++ reason
  | noIdentifier => "Pattern rule needs an id"
  | noElements rule => "Pattern rule " ++ rule ++ " has no elements"
  | onlyOptional rule => "Pattern rule " ++ rule ++ " can only match zero tokens"
  | noSuchElement rule what got count =>
    "Rule " ++ rule ++ ": " ++ what ++ " " ++ got.shown ++ s!" is not an element (1..{count})"
  | sampleNotText rule got => "Rule " ++ rule ++ ": sample must be a string, got " ++ got.quoted
  | conversionWithoutSource rule =>
    "Rule " ++ rule ++ ": case conversion requires a suggestion_source"
  | badReference rule digits template =>
    "Rule " ++ rule ++ ": reference \\" ++ String.ofList digits ++ " in " ++
      String.ofList template.quoted ++ " is out of range"
  | noReplacement rule wrong =>
    "Rule " ++ rule ++ ": " ++ String.ofList wrong.quoted ++ " needs at least one replacement"
  | badReplacementLine source line got =>
    source ++ s!":{line}: expected 'word=replacement', got " ++ String.ofList got.quoted
  | emptyReplacementLine source line got =>
    source ++ s!":{line}: empty word or replacement in " ++ String.ofList got.quoted
  | notMapping place kind =>
    (match place with | none => "rule" | some p => p.shown) ++ ": expected a mapping, got " ++ kind
  | unknownKeys place keys => place.shown ++ ": unknown keys " ++ (Value.list keys).quoted
  | missingKey place key => place.shown ++ ": missing '" ++ key ++ "'"
  | patternNotList place => place.shown ++ ": 'pattern' must be a list of elements"
  | exceptionsNotList place => place.shown ++ ": 'exceptions' must be a list"
  | unknownConversion place got known =>
    place.shown ++ ": unknown case_conversion " ++ got.quoted ++ " (valid: " ++ commaJoin known ++ ")"
  | rulesNotList => "'rules' must be a list"
  | duplicateRule rule => "Duplicate rule id: " ++ rule
  | wrongKind place fault => place.shown ++ ": " ++ fault.message
  | malformedFile name => "Invalid YAML in " ++ name
  | noModel => "Cannot score suggestions without a language model"

/-- A resource that cannot be had. -/
inductive Shortage where
  /-- A file that cannot be read. -/
  | unreadable (kind : FileKind) (name : String)
  /-- No frequency list is known for the language. -/
  | noFrequencies (language : String)

/-- The wording of a shortage. -/
def Shortage.message : Shortage → String
  | unreadable kind name => "Cannot read " ++ kind.shown ++ " " ++ name
  | noFrequencies language => "No pyspellchecker dictionary for language " ++ quoteString language

/-- What is wrong with a text value that an operation cannot use. -/
inductive ValueFault where
  /-- No text to check. -/
  | noText
  /-- A logarithm of what is not positive. -/
  | logarithm
  /-- A closing brace that stands alone in a template. -/
  | loneClose
  /-- An opening brace that stands alone in a template. -/
  | loneOpen
  /-- A field of a template without an end. -/
  | openField
  /-- An opening brace inside a field of a template. -/
  | nestedOpen
  /-- A field of a template that counts a position out of reach. -/
  | positionTooLarge
  /-- A day or time that no calendar or clock has. -/
  | noSuchTime
  /-- Digits that write no number. -/
  | noNumber
  /-- An integer of more digits than are written or read. -/
  | tooManyDigits
  /-- A code that no character has. -/
  | noCharacter
  /-- An expression that asks both for ASCII alone and for something else. -/
  | typesClash (other : String)
  /-- Bytes without a mark that tells their order. -/
  | noByteOrder

/-- The wording of a value fault. -/
def ValueFault.message : ValueFault → String
  | noText => "Input text cannot be None"
  | logarithm => "math domain error"
  | loneClose => "Single '\x7d' encountered in format string"
  | loneOpen => "Single '\x7b' encountered in format string"
  | nestedOpen => "unexpected '\x7b' in field name"
  | openField => "expected '\x7d' before end of string"
  | positionTooLarge => "Too many decimal digits in format string"
  | noSuchTime => "value out of range"
  | noNumber => "invalid literal"
  | tooManyDigits => "Exceeds the limit (4300 digits) for integer string conversion"
  | noCharacter => "chr() arg not in range(0x110000)"
  | typesClash other => (Regex.Cause.typesClash other).message
  | noByteOrder => "UTF-16 stream does not start with BOM"

/-- Why a position is out of range. -/
inductive RangeFault where
  /-- Past the tokens of a sentence. -/
  | tokens
  /-- Past the items of a list. -/
  | items
  /-- Past the positional fields of a template. -/
  | field (index : Nat)
  /-- Past the end of a text. -/
  | characters

/-- The wording of a range fault. -/
def RangeFault.message : RangeFault → String
  | tokens => "tuple index out of range"
  | items => "list index out of range"
  | field index => s!"Replacement index {index} out of range for positional args tuple"
  | characters => "string index out of range"

/-- What is too large to be a number of the kind that is needed. -/
inductive Overflow where
  /-- An integer, where a floating-point number is needed. -/
  | integer
  /-- A quotient of integers, where a floating-point number is needed. -/
  | quotient
  /-- A bound of a repetition. -/
  | repetition
  /-- The code of a character. -/
  | code

/-- The wording of an overflow. -/
def Overflow.message : Overflow → String
  | integer => "int too large to convert to float"
  | quotient => "integer division result too large for a float"
  | repetition => Regex.Cause.boundTooLarge.message
  | code => "int too large to convert to C int"

/-- Everything that can go wrong. -/
inductive Error where
  /-- A definition or a setting is refused. -/
  | defect (d : Defect)
  /-- A resource cannot be had. -/
  | shortage (s : Shortage)
  /-- A value is not of the kind that is needed. -/
  | kind (f : KindFault)
  /-- A value lacks an operation. -/
  | lacks (kind operation : String)
  /-- A position is out of range. -/
  | range (f : RangeFault)
  /-- A key is not there. -/
  | key (quoted : String)
  /-- A value cannot be used. -/
  | value (f : ValueFault)
  /-- A division by zero. -/
  | divisionByZero
  /-- A number is too large. -/
  | overflow (o : Overflow)
  /-- What is to be read or written is nested too deeply, or without end. -/
  | tooDeep
  /-- A regular expression cannot be read. -/
  | expression (f : Regex.Fault) (written : Text)
  /-- A rule from outside reports a failure of its own. -/
  | raised (text : String)

/-- The values that the wording of a defect cites. -/
def Defect.cited : Defect → List Value
  | .unknownFailureMode v | .leastNegative v | .mostInvalid v | .unknownScope v => [v]
  | .leastAboveMost least most => [least, most]
  | .badExpression _ v _ | .noSuchElement _ _ v _ | .sampleNotText _ v => [v]
  | .unknownKeys _ keys => keys
  | .unknownConversion _ v _ => [v]
  | _ => []

/-- The error of a value that is not written. -/
def Error.ofWriteFault : Value.WriteFault → Error
  | .tooManyDigits => .value .tooManyDigits
  | .tooDeep => .tooDeep

/-- The error that a defect is. One that cites a value that is not written is an error of its own. -/
def Error.ofDefect (d : Defect) : Error :=
  match d.cited.findSome? Value.writeFault? with
  | some f => .ofWriteFault f
  | none => .defect d

/-- A value as a text of its own, unless it is not written. -/
def Value.text? (v : Value) : Except Error String :=
  match v.writeFault? with
  | some f => .error (.ofWriteFault f)
  | none => .ok v.shown

/-- The error that compiling an expression with a fault is. -/
def Error.ofFault (f : Regex.Fault) (written : Text) : Error :=
  match f.cause with
  | .boundTooLarge => .overflow .repetition
  | .boundTooLong => .value .tooManyDigits
  | .tooDeep => .tooDeep
  | .typesClash other => .value (.typesClash other)
  | _ => .expression f written

/-- The wording of an error. -/
def Error.message : Error → String
  | defect d => d.message
  | shortage s => s.message
  | kind f => f.message
  | lacks k operation => s!"'{k}' object has no attribute '{operation}'"
  | range f => f.message
  | key quoted => quoted
  | value f => f.message
  | divisionByZero => "division by zero"
  | overflow o => o.message
  | tooDeep => "maximum recursion depth exceeded"
  | expression f written => f.message written
  | raised text => text

end Copyedit
