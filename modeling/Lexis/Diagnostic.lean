import Lexis.Text.Printable
import Lexis.Text.Quoted

/-!
# Diagnostics

What can be wrong with a source text, and how it is told.

* `Fault`: the mistake and the text that it is about, with `Fault.name`, `Fault.message` and
  `Fault.tip?`;
* `Diagnostic`: a fault and its line, none for a fault of the whole program;
* `Diagnostic.display`: the line and the message in one text.
-/

namespace Lexis

/-- A mistake in a source text. -/
inductive Fault
  /-- A character that no lexeme holds. -/
  | unknownSymbol (symbol : Char)
  /-- An operator that lacks its second character. -/
  | expectedSymbol (found expected : String)
  /-- A declaration of an identifier that was met before. -/
  | variableRedeclared (name : String)
  /-- An identifier that is first met outside a declaration. -/
  | variableUndeclared (name : String)
  /-- A `goto` to a label that an earlier `goto` refers to. -/
  | labelReferencedAgain (name : String)
  /-- A second declaration of a label. -/
  | labelRedeclared (name : String)
  /-- A label that has references only. -/
  | labelNeverDeclared (name : String)
  deriving DecidableEq, Repr, Inhabited

namespace Fault

/-- The name of the kind of mistake. -/
def name : Fault → String
  | unknownSymbol _ => "UnknownSymbol"
  | expectedSymbol _ _ => "ExpectedSymbol"
  | variableRedeclared _ => "VariableRedeclared"
  | variableUndeclared _ => "VariableUsedWithoutDeclaration"
  | labelReferencedAgain _ => "LabelReferencedMoreThanOnce"
  | labelRedeclared _ => "LabelRedeclared"
  | labelNeverDeclared _ => "LabelNeverDeclared"

/-- The message, in which the texts that the fault is about are quoted with the characters that are
not `shown` escaped. -/
def messageWith (shown : Char → Bool) : Fault → String
  | unknownSymbol symbol => "unknown symbol: " ++ Text.quoteChar shown symbol
  | expectedSymbol found expected =>
    "expected " ++ Text.quoteString shown expected ++ " after " ++ Text.quoteString shown found
  | variableRedeclared name => "variable " ++ Text.quoteString shown name ++ " already declared"
  | variableUndeclared name =>
    "variable " ++ Text.quoteString shown name ++ " used without declaration"
  | labelReferencedAgain name =>
    "label " ++ Text.quoteString shown name ++ " referenced more than once"
  | labelRedeclared name => "label " ++ Text.quoteString shown name ++ " already declared"
  | labelNeverDeclared name => "label " ++ Text.quoteString shown name ++ " never declared"

/-- The message, in which printable characters are shown as they are. -/
def message : Fault → String := messageWith Text.isPrintable

/-- What to do about the mistake. -/
def tip? : Fault → Option String
  | unknownSymbol _ => none
  | expectedSymbol found expected =>
    some ("Expected `" ++ expected ++ "` after `" ++ found ++ "`")
  | variableRedeclared name => some ("Variable `" ++ name ++ "` already declared")
  | variableUndeclared name =>
    some ("Variable `" ++ name ++ "` not declared, did you forget `int " ++ name ++ "`?")
  | labelReferencedAgain name =>
    some ("Label `" ++ name ++ "` is already the target of a goto")
  | labelRedeclared name => some ("Label `" ++ name ++ "` already declared")
  | labelNeverDeclared name =>
    some ("Label `" ++ name ++ "` is referenced but never declared, add `" ++ name
      ++ ":` before a statement")

end Fault

/-- A mistake and the place where it was found. -/
structure Diagnostic where
  fault : Fault
  /-- The line of the mistake; none if it concerns the whole program. -/
  line : Option UInt32
  deriving DecidableEq, Repr, Inhabited

namespace Diagnostic

/-- The line as it is told: `-1` stands for the whole program. -/
def reportedLine (d : Diagnostic) : Int := d.line.elim (-1) fun line => line.toNat

/-- The line and the message, with the characters that are not `shown` escaped. -/
def displayWith (shown : Char → Bool) (d : Diagnostic) : String :=
  "line " ++ toString d.reportedLine ++ ": " ++ d.fault.messageWith shown

/-- The line and the message. -/
def display : Diagnostic → String := displayWith Text.isPrintable

end Diagnostic

end Lexis
