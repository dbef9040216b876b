import Copyedit.Decimal.Binary
import Copyedit.Pattern.Constraint

/-!
# Elements of a pattern

An element is a constraint that a run of tokens satisfies, with bounds on the length of the run and with
exceptions: constraints on the token itself or on a neighbour that veto it. A neighbour that is not there
never vetoes.
-/

namespace Copyedit.Pattern

/-! ### Exceptions -/

/-- The token that an exception looks at. -/
inductive Scope where
  /-- The token itself. -/
  | current
  /-- The token after it. -/
  | next
  /-- The token before it. -/
  | previous
  deriving DecidableEq, Repr

namespace Scope

/-- The name of a scope in rule files. -/
def name : Scope → String
  | current => "current"
  | next => "next"
  | previous => "previous"

/-- How far the token is from the one that is tested. -/
def offset : Scope → Int
  | current => 0
  | next => 1
  | previous => -1

/-- The scope with a name. -/
def ofValue (v : Value) : Except Error Scope :=
  if !v.canBeKey then .error (.kind (.notKey v.kindName))
  else match [current, next, previous].find? fun s => v.sameKey (.text s.name) with
    | some s => .ok s
    | none => .error (.ofDefect (.unknownScope v))

end Scope

/-- A constraint that vetoes an element. -/
structure Exception where
  /-- What the token must look like to veto. -/
  constraint : Constraint
  /-- Which token that is. -/
  scope : Scope

namespace Exception

/-- Compiles an exception. -/
def make (d : Demand) (scope : Value := .text "current") : Except Error Exception := do
  let scope ← Scope.ofValue scope
  return ⟨← Constraint.make "ElementException" d, scope⟩

/-- Whether the exception vetoes the token at a position. -/
def vetoes (e : Exception) (tokens : List Token) (index : Int) (default : Value := .bool false) :
    Except Error Bool :=
  let target := index + e.scope.offset
  if target < 0 then .ok false
  else match tokens[target.toNat]? with
    | some t => e.constraint.test t default
    | none => .ok false

end Exception

/-! ### Bounds -/

/-- The least integer that is not below a finite number. -/
def ceiling? (x : Float) : Option Int :=
  (Decimal.parts? x).map fun p =>
    let (num, den) := p.ratio
    if p.negative then -((num / den : Nat) : Int) else (((num + den - 1) / den : Nat) : Int)

/-- The smallest count that is not below a bound; none if no count is. -/
def leastOf (bound : Value) : Option Nat :=
  match bound.integer? with
  | some n => some n.toNat
  | none => match bound.number? with
    | some x => match ceiling? x with
      | some n => some n.toNat
      | none => if 0 < x then none else some 0
    | none => some 0

/-- The bound that stands for none. -/
def unbounded : Value := .int (-1)

/-- Compares a bound with an integer; bounds that are not numbers have no order. -/
def below (bound : Value) (n : Int) : Except Error Bool :=
  match bound.number? with
  | some _ => .ok ((bound.precedes? (.int n)).getD false)
  | none => .error (.kind (.notOrdered "<" bound.longKindName "int"))

/-! ### Elements -/

/-- The item at a position; a negative one counts from the end. -/
def itemAt {α : Type} (fault : RangeFault) (items : List α) (index : Int) : Except Error α :=
  let index := if index < 0 then index + items.length else index
  if index < 0 then .error (.range fault)
  else match items[index.toNat]? with
    | some x => .ok x
    | none => .error (.range fault)

/-- One part of a pattern. -/
structure Element where
  /-- What the tokens must look like. -/
  constraint : Constraint
  /-- The least number of tokens, as it is given. -/
  least : Value
  /-- The greatest number of tokens, as it is given. -/
  most : Value
  /-- What vetoes a token. -/
  exceptions : List Exception

namespace Element

/-- Compiles an element. -/
def make (d : Demand) (least most : Value := .int 1) (exceptions : List Exception := []) :
    Except Error Element := do
  if ← below least 0 then throw (.ofDefect (.leastNegative least))
  if most.sameKey (.int 0) || (← below most (-1)) then throw (.ofDefect (.mostInvalid most))
  if !most.sameKey unbounded && (most.precedes? least).getD false then
    throw (.ofDefect (.leastAboveMost least most))
  return ⟨← Constraint.make "MatchElement" d, least, most, exceptions⟩

/-- Whether the element may be left out. -/
def isOptional (e : Element) : Bool := e.least.sameKey (.int 0)

/-- Whether a run of `count` tokens is long enough. -/
def isEnough (e : Element) (count : Nat) : Bool :=
  match leastOf e.least with
  | some n => n ≤ count
  | none => false

/-- Whether a run of `count` tokens may go on. -/
def allowsMore (e : Element) (count : Nat) : Bool :=
  e.most.sameKey unbounded ||
    match leastOf e.most with
    | some n => count < n
    | none => true

/-- Whether some exception vetoes the token at a position. -/
def isVetoed (exceptions : List Exception) (tokens : List Token) (index : Int) (setting : Value) :
    Except Error Bool :=
  match exceptions with
  | [] => .ok false
  | x :: rest => do
    if ← x.vetoes tokens index setting then return true
    isVetoed rest tokens index setting

/-- The token at a position. -/
def tokenAt (tokens : List Token) (index : Int) : Except Error Token := itemAt .tokens tokens index

/-- Whether the element accepts the token at a position. -/
def accepts (e : Element) (tokens : List Token) (index : Int) (default : Value := .bool false) :
    Except Error Bool := do
  if ← e.constraint.test (← tokenAt tokens index) default then
    return !(← isVetoed e.exceptions tokens index (e.constraint.caseSetting default))
  else return false

end Element

end Copyedit.Pattern
