import Copyedit.Error
import Copyedit.Text.LetterCase
import Copyedit.Token

/-!
# Constraints on a token

A constraint demands a text, a tag or a base form of a token, or several of these; it may be negated. A
demanded text is an expression or is taken as it is written; it is compiled once with and once without
regard to case, and the setting of the constraint, or else of its rule, chooses between the two. Tags are
compared with regard to case.

What a constraint demands is kept as it is given. Rule files may give any value for most demands, and
what such a value means when a token is tested is decided here.
-/

namespace Copyedit.Pattern

/-- What is demanded of a token, as it is given. -/
structure Demand where
  /-- The text, or an expression for it. -/
  token : Option Text := none
  /-- Whether the text is an expression. -/
  isExpression : Value := .bool false
  /-- An expression for the tag. -/
  tag : Value := .null
  /-- The base form. -/
  base : Value := .null
  /-- Whether the tokens that do not satisfy the rest are meant. -/
  negated : Value := .bool false
  /-- Whether case matters; null leaves this to the rule. -/
  caseSensitive : Value := .null

/-- Whether each demand is of the kind that is meant for it. -/
def Demand.IsTyped (d : Demand) : Prop :=
  (∃ b, d.isExpression = .bool b) ∧ (d.tag = .null ∨ ∃ s, d.tag = .text s) ∧
    (d.base = .null ∨ ∃ s, d.base = .text s) ∧ (∃ b, d.negated = .bool b) ∧
    (d.caseSensitive = .null ∨ ∃ b, d.caseSensitive = .bool b)

/-- The error of an expression that a definition holds as it is `written`, with the wording of its fault. -/
def refusal (what : String) (written : Value) (source : Text) (f : Regex.Fault) (reason : String) : Error :=
  match Error.ofFault f source with
  | .expression .. => .defect (.badExpression what written reason)
  | e => e

/-- Compiles an expression that a definition holds as it is `written`. -/
def compileFor (what : String) (written : Value) (source : Text) (ignoreCase : Bool := false) :
    Except Error Regex :=
  (Regex.compile source ignoreCase).mapError fun f => refusal what written source f (f.message source)

/-- A demanded text, compiled. -/
structure Wording where
  /-- With regard to case. -/
  exact : Regex
  /-- Without regard to case. -/
  folded : Regex

namespace Wording

/-- Compiles a text as an expression or as it is written. -/
def make (source : Text) (isExpression : Bool) : Except Error Wording := do
  if isExpression then
    let written := Value.text (String.ofList source)
    return ⟨← compileFor "token" written source, ← compileFor "token" written source true⟩
  else return ⟨.ofLiteral source, .ofLiteral source true⟩

/-- The expression that a case setting chooses. Only truth values and the numbers 0 and 1 do. -/
def choose (w : Wording) (caseSensitive : Value) : Except Error Regex :=
  if !caseSensitive.canBeKey then .error (.kind (.notKey caseSensitive.kindName))
  else if caseSensitive.isTruth true then .ok w.exact
  else if caseSensitive.isTruth false then .ok w.folded
  else .error (.key caseSensitive.quoted)

end Wording

/-- The expression for a tag. -/
inductive TagForm where
  /-- An expression for texts. -/
  | ofText (r : Regex)
  /-- An expression for bytes; matching a tag against it fails. -/
  | ofBytes

namespace TagForm

/-- Compiles an expression for a tag, if one is given. -/
def make : Value → Except Error (Option TagForm)
  | .null => .ok none
  | .text s => do return some (.ofText (← compileFor "POS tag" (.text s) s.toList))
  | .bytes bs => do
    let source := bs.map Char.ofNat
    (Regex.checkBytes bs).mapError fun f => refusal "POS tag" (.bytes bs) source f (f.asciiMessage source)
    return some .ofBytes
  | v => .error (.kind (if v.canBeKey then .notExpression else .notKey v.kindName))

/-- Whether a token has a tag of this form. -/
def test (f : TagForm) (t : Token) : Except Error Bool :=
  match f with
  | ofText r => .ok (t.hasTag r)
  | ofBytes => if t.tags.isEmpty then .ok false else .error (.kind .textForBytes)

end TagForm

/-- A compiled constraint. -/
structure Constraint where
  /-- What is demanded. -/
  demand : Demand
  /-- The demanded text, if there is one. -/
  wording : Option Wording
  /-- The expression for the tag, if one is demanded. -/
  tag : Option TagForm

namespace Constraint

/-- Compiles what is demanded. `what` names the kind of constraint in messages. -/
def make (what : String) (d : Demand) : Except Error Constraint := do
  let token := d.token.getD []
  if token.isEmpty && d.tag.isNull && d.base.isNull then
    throw (.defect (.emptyConstraint what))
  let wording ←
    if token.isEmpty then pure none
    else do pure (some (← Wording.make token d.isExpression.truthy))
  return ⟨d, wording, ← TagForm.make d.tag⟩

/-- The case setting of a constraint in a context with a setting of its own. -/
def caseSetting (c : Constraint) (default : Value) : Value :=
  if c.demand.caseSensitive.isNull then default else c.demand.caseSensitive

/-- Whether the text of a token is as demanded. -/
def hasWording (c : Constraint) (t : Token) (setting : Value) : Except Error Bool :=
  match c.wording with
  | none => .ok true
  | some w => do
    let r ← w.choose setting
    match t.text with
    | some text => return r.fullMatch text
    | none => throw (.kind (.notText "NoneType"))

/-- Whether the base form of some reading is as demanded. -/
def hasBase (c : Constraint) (t : Token) (setting : Value) : Except Error Bool :=
  match c.demand.base with
  | .null => .ok true
  | .text base =>
    if setting.truthy then .ok (t.hasBase base.toList)
    else .ok (t.bases.any fun b => b.fold == Text.fold base.toList)
  | v => if setting.truthy then .ok false else .error (.lacks v.longKindName "casefold")

/-- Whether text, tag and base form are as demanded; what comes first and is not settles it. -/
def holds (c : Constraint) (t : Token) (setting : Value) : Except Error Bool := do
  if ← c.hasWording t setting then
    let hasTag ← (c.tag.map (·.test t)).getD (.ok true)
    if hasTag then c.hasBase t setting else return false
  else return false

/-- Whether a token satisfies a constraint, in a context with a case setting of its own. -/
def test (c : Constraint) (t : Token) (default : Value := .bool false) : Except Error Bool := do
  return !c.demand.negated.isTruth (← c.holds t (c.caseSetting default))

end Constraint

end Copyedit.Pattern
