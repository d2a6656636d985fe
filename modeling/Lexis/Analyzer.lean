import Lexis.Analysis

/-!
# Analyzers

An analyzer runs over one source after the other with one spelling table. A run leaves its
diagnostics behind, and also the place where it stopped and what the last line said; each run
forgets all of it before it starts.

* `Analyzer`, `Analyzer.ofSpellings`, `Analyzer.errors`;
* `Analyzer.void`, `Analyzer.reset`: give up the tables, or everything;
* `Analyzer.start`, `Analyzer.scan`, `Analyzer.checkLabels`, `Analyzer.outcome`: the stages of a run;
* `Analyzer.run`, with **`Analyzer.run_fst`**: a run gives the analysis of its source.
-/

namespace Lexis

/-- A spelling table, a place in a source, and the draft that is worked on. -/
structure Analyzer where
  spellings : Spellings
  lexer : Lexer
  draft : Draft
  deriving Inhabited

namespace Analyzer

/-- A new analyzer with a spelling table. -/
def ofSpellings (table : Spellings) : Analyzer := ⟨table, .idle, .empty⟩

/-- A new analyzer with the standard spellings. -/
def standard : Analyzer := ofSpellings .standard

/-- The diagnostics of the last run. -/
def errors (a : Analyzer) : List Diagnostic := a.draft.diagnostics.toList

/-- Give up the tokens and the tables. The lexer keeps its place, but no lexeme lies before it. -/
def void (a : Analyzer) : Analyzer :=
  { a with lexer := { a.lexer with last := none }, draft := a.draft.void }

/-- Forget the last run. -/
def reset (a : Analyzer) : Analyzer :=
  { a with
    lexer := .idle
    draft := { a.draft.void with diagnostics := #[], context := .unseen } }

/-- Forget the last run, and stand before a source. -/
def start (a : Analyzer) (source : String) : Analyzer := { a.reset with lexer := .ofSource source }

/-- Add all pieces that are left of the source. -/
def scan (a : Analyzer) : Analyzer :=
  match _h : a.lexer.next? a.spellings with
  | none => a
  | some (piece, lexer) => scan { a with lexer, draft := a.draft.add piece }
termination_by a.lexer.cursor.rest.length
decreasing_by exact Lexer.length_rest_lt_of_next? _h

/-- Report the labels without a declaration. -/
def checkLabels (a : Analyzer) : Analyzer :=
  { a with draft.diagnostics := a.draft.diagnostics ++ a.draft.undeclaredLabels }

/-- What was found out: the tables, or the diagnostics if there are any. -/
def outcome (a : Analyzer) : Except (List Diagnostic) Analysis :=
  if a.errors = [] then .ok a.draft.toAnalysis else .error a.errors

/-- Analyze a source. The tables go into the analysis or are void; the diagnostics stay. -/
def run (a : Analyzer) (source : String) : Except (List Diagnostic) Analysis × Analyzer :=
  let a := (a.start source).scan.checkLabels
  (a.outcome, a.void)

@[simp] theorem errors_reset (a : Analyzer) : a.reset.errors = [] := rfl

@[simp] theorem errors_void (a : Analyzer) : a.void.errors = a.errors := rfl

theorem errors_checkLabels (a : Analyzer) : a.checkLabels.errors = a.draft.allDiagnostics := by
  simp [checkLabels, errors, Draft.allDiagnostics]

theorem outcome_checkLabels (a : Analyzer) : a.checkLabels.outcome = a.draft.finish := by
  rw [outcome, errors_checkLabels, Draft.finish]
  cases a.draft.allDiagnostics with
  | nil => rfl
  | cons d ds => rfl

@[simp] theorem spellings_scan (a : Analyzer) : a.scan.spellings = a.spellings := by
  fun_induction scan a with
  | case1 => rfl
  | case2 a piece lexer h ih => exact ih

/-- A scan goes through the pieces that are left, in order. -/
theorem draft_scan (a : Analyzer) : a.scan.draft = a.lexer.fold a.spellings Draft.add a.draft := by
  fun_induction scan a with
  | case1 a h => rw [Lexer.fold]; split <;> simp_all
  | case2 a piece lexer h ih =>
    rw [ih, Lexer.fold.eq_def _ _ a.draft]
    split <;> simp_all

theorem draft_scan_start (a : Analyzer) (source : String) :
    (a.start source).scan.draft = Draft.scan a.spellings source := draft_scan _

@[simp] theorem spellings_run (a : Analyzer) (source : String) :
    (a.run source).2.spellings = a.spellings := spellings_scan _

/-- **A run gives the analysis of its source**, whatever went before it. -/
theorem run_fst (a : Analyzer) (source : String) :
    (a.run source).1 = analyzeWith a.spellings source := by
  rw [run, outcome_checkLabels, draft_scan_start, analyzeWith]

theorem errors_run (a : Analyzer) (source : String) :
    (a.run source).2.errors = (Draft.scan a.spellings source).allDiagnostics := by
  rw [run, errors_void, errors_checkLabels, draft_scan_start]

end Analyzer

end Lexis
