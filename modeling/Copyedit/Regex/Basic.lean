import Copyedit.Regex.Parse
import Copyedit.Regex.Match

/-!
# Compiled regular expressions

An expression ready to be matched against whole texts.
-/

namespace Copyedit

/-- A regular expression with the flags it is matched under. -/
structure Regex where
  /-- The tree. -/
  expr : Regex.Expr
  /-- The flags of the whole expression. -/
  flags : Regex.Flags

namespace Regex

/-- Compiles the text of an expression. -/
def compile (source : Text) (ignoreCase : Bool := false) : Except Fault Regex :=
  (Expr.ofText source { ignoreCase }).map fun (expr, flags) => { expr, flags }

/-- Checks that bytes are an expression for bytes. -/
def checkBytes (source : List Nat) : Except Fault Unit :=
  (Expr.ofText (source.map Char.ofNat) {} true).map fun _ => ()

/-- The expression that matches a text as it is written. -/
def ofLiteral (t : Text) (ignoreCase : Bool := false) : Regex where
  expr := Expr.literal t
  flags := { ignoreCase }

/-- Whether the expression matches the whole of a text. -/
def fullMatch (r : Regex) (t : Text) : Bool :=
  let widths := r.expr.groupWidths []
  let found := r.expr.matcher (fun i => (widths.lookup i).getD (0, 0)) r.flags (Cursor.start t)
    fun s => if s.after.isEmpty then some s else none
  found.isSome

end Regex

end Copyedit
