import Lexis.Draft

/-!
# Analyses

The analysis of a source is its token stream with the tables of its symbols. A source with a fault
has none: its diagnostics stand in for it.

* `Analysis`, with `Analysis.identifier?`, `Analysis.constant?`, `Analysis.label?`;
* `Draft.finish`: the analysis of a finished draft, or its diagnostics;
* `analyzeWith`, `analyze`: the analysis of a source.
-/

namespace Lexis

/-- The tokens and symbols of a source without faults. -/
structure Analysis where
  tokens : List Token
  identifiers : List Identifier
  constants : List Constant
  labels : List Label
  deriving DecidableEq, Repr, Inhabited

namespace Analysis

/-- The identifier of that name. -/
def identifier? (a : Analysis) (name : String) : Option Identifier :=
  Symbol.find? a.identifiers name

/-- The constant of that spelling. -/
def constant? (a : Analysis) (spelling : String) : Option Constant :=
  Symbol.find? a.constants spelling

/-- The label of that name. -/
def label? (a : Analysis) (name : String) : Option Label :=
  Symbol.find? a.labels name

end Analysis

/-- The tokens and tables of a draft. -/
def Draft.toAnalysis (d : Draft) : Analysis where
  tokens := d.tokens.toList
  identifiers := d.identifiers.toList
  constants := d.constants.toList
  labels := d.labels.toList

/-- The analysis of a finished draft. One fault is enough to void it. -/
def Draft.finish (d : Draft) : Except (List Diagnostic) Analysis :=
  match d.allDiagnostics with
  | [] => .ok d.toAnalysis
  | diagnostics => .error diagnostics

theorem Draft.finish_eq_ok_iff {d : Draft} {a : Analysis} :
    d.finish = .ok a ↔ d.allDiagnostics = [] ∧ d.toAnalysis = a := by
  unfold finish
  split
  · next h => simp [h]
  · next h => simpa using fun hnil => absurd hnil h

theorem Draft.finish_eq_error_iff {d : Draft} {diagnostics : List Diagnostic} :
    d.finish = .error diagnostics ↔ diagnostics ≠ [] ∧ d.allDiagnostics = diagnostics := by
  unfold finish
  split
  · next h => simp [h]
  · next h =>
    rw [Except.error.injEq]
    exact ⟨fun heq => ⟨fun hnil => h (heq.trans hnil), heq⟩, fun heq => heq.2⟩

/-- The analysis of a source under a spelling table. -/
def analyzeWith (table : Spellings) (source : String) : Except (List Diagnostic) Analysis :=
  (Draft.scan table source).finish

/-- The analysis of a source under the standard spellings. -/
def analyze (source : String) : Except (List Diagnostic) Analysis :=
  analyzeWith .standard source

end Lexis
