import Lexis.Analysis
import Lexis.Json

/-!
# The report in JSON

The values that tokens, symbols, analyses and diagnostics have in JSON. The keys of each object
ascend.

* `Token.toJson`, `Identifier.toJson`, `Constant.toJson`, `Label.toJson`, `Analysis.toJson`;
* `Fault.detail`, `Diagnostic.toJson`;
* `Report.toJson`: the outcome of an analysis.
-/

namespace Lexis

/-- A spelling is an object with its code; the other kinds are named. -/
def Kind.toJson : Kind → Json
  | .spelling code => .obj [("Spelling", .ofNat code)]
  | kind => .str kind.display

/-- The number of a line, which may be missing. -/
def lineToJson : Option UInt32 → Json := Json.ofOption fun line => .ofNat line.toNat

def Token.toJson (t : Token) : Json :=
  .obj [
    ("id", .ofNat t.id),
    ("index", .ofOption .ofNat t.index),
    ("kind", t.kind.toJson),
    ("line", .ofNat t.line.toNat),
    ("text", .str t.text)]

def Identifier.toJson (i : Identifier) : Json :=
  .obj [
    ("declared_type", .str i.declaredType),
    ("index", .ofNat i.index),
    ("name", .str i.name)]

def Constant.toJson (c : Constant) : Json :=
  .obj [
    ("index", .ofNat c.index),
    ("spelling", .str c.spelling)]

def Label.toJson (l : Label) : Json :=
  .obj [
    ("index", .ofNat l.index),
    ("line_from", lineToJson l.lineFrom),
    ("line_to", lineToJson l.lineTo),
    ("name", .str l.name)]

def Analysis.toJson (a : Analysis) : Json :=
  .obj [
    ("constants", .arr (a.constants.map Constant.toJson)),
    ("identifiers", .arr (a.identifiers.map Identifier.toJson)),
    ("labels", .arr (a.labels.map Label.toJson)),
    ("tokens", .arr (a.tokens.map Token.toJson))]

/-- The texts that a fault is about. -/
def Fault.detail : Fault → Json
  | .unknownSymbol symbol => .obj [("symbol", .str (String.singleton symbol))]
  | .expectedSymbol found expected => .obj [("expected", .str expected), ("found", .str found)]
  | .variableRedeclared name | .variableUndeclared name => .obj [("variable", .str name)]
  | .labelReferencedAgain name | .labelRedeclared name | .labelNeverDeclared name =>
    .obj [("label", .str name)]

def Diagnostic.toJson (d : Diagnostic) : Json :=
  .obj [
    ("detail", d.fault.detail),
    ("kind", .str d.fault.name),
    ("line", .num d.reportedLine),
    ("message", .str d.fault.message)]

/-- The outcome of an analysis. -/
def Report.toJson : Except (List Diagnostic) Analysis → Json
  | .ok analysis => .obj [("analysis", analysis.toJson), ("ok", .bool true)]
  | .error diagnostics =>
    .obj [("errors", .arr (diagnostics.map Diagnostic.toJson)), ("ok", .bool false)]

end Lexis
