import Lexis.Analyzer
import Lexis.Proofs.Draft

/-!
# One analyzer for many sources

What an analyzer holds between two runs does not show in the second one, wherever the first one
stopped.

* `Analyzer.Command`, `Analyzer.after`: what an analyzer can be told, and a new analyzer after a
  series of commands;
* `Analyzer.IsVoid`: no token, no entry and no name is held;
* `Analyzer.run_eq`: of what an analyzer holds, only its table of spellings matters to a run;
* **`Analyzer.run_after`**: after any commands a run gives what it gives on a new analyzer; all its
  diagnostics stay, or all its tables are given away.
-/

namespace Lexis.Analyzer

/-- What an analyzer can be told. -/
inductive Command
  | run (source : String)
  | reset
  deriving DecidableEq, Repr

/-- The analyzer behind a command. -/
def perform (a : Analyzer) : Command → Analyzer
  | .run source => (a.run source).2
  | .reset => a.reset

/-- A new analyzer behind commands, one after the other. -/
def after (table : Spellings) (commands : List Command) : Analyzer :=
  commands.foldl perform (ofSpellings table)

/-- No token is held, and no symbol table has an entry or knows a name. -/
structure IsVoid (a : Analyzer) : Prop where
  last : a.lexer.last = none
  tokens : a.draft.tokens = #[]
  identifiers : a.draft.identifiers = .empty
  constants : a.draft.constants = .empty
  labels : a.draft.labels = .empty

theorem isVoid_void (a : Analyzer) : a.void.IsVoid := ⟨rfl, rfl, rfl, rfl, rfl⟩

theorem isVoid_ofSpellings (table : Spellings) : (ofSpellings table).IsVoid :=
  ⟨rfl, rfl, rfl, rfl, rfl⟩

/-! ## What is forgotten -/

theorem reset_eq (a : Analyzer) : a.reset = ofSpellings a.spellings := rfl

theorem start_eq (a : Analyzer) (source : String) :
    a.start source = (ofSpellings a.spellings).start source := rfl

/-- **Only the table of spellings matters to a run**, to what it gives and to what it leaves. -/
theorem run_eq (a : Analyzer) (source : String) :
    a.run source = (ofSpellings a.spellings).run source := by
  rw [run, start_eq, run]

theorem spellings_perform (a : Analyzer) (command : Command) :
    (a.perform command).spellings = a.spellings := by
  cases command with
  | run source => exact spellings_run a source
  | reset => rfl

theorem spellings_after (table : Spellings) (commands : List Command) :
    (after table commands).spellings = table := by
  induction commands using List.reverseRecOn with
  | nil => rfl
  | append_singleton commands command ih =>
    rw [after, List.foldl_append, List.foldl_cons, List.foldl_nil, spellings_perform]
    exact ih

/-! ## What a run tells and leaves -/

theorem run_fst_eq_error_iff (a : Analyzer) (source : String) (diagnostics : List Diagnostic) :
    (a.run source).1 = .error diagnostics ↔
      diagnostics ≠ [] ∧ (a.start source).scan.draft.allDiagnostics = diagnostics := by
  rw [run, outcome_checkLabels, Draft.finish_eq_error_iff]

theorem run_fst_eq_ok_iff (a : Analyzer) (source : String) (analysis : Analysis) :
    (a.run source).1 = .ok analysis ↔
      (a.start source).scan.draft.allDiagnostics = [] ∧
        (a.start source).scan.draft.toAnalysis = analysis := by
  rw [run, outcome_checkLabels, Draft.finish_eq_ok_iff]

/-- A run fails if and only if its scan or its check of the labels reports something. -/
theorem exists_run_fst_eq_error_iff (a : Analyzer) (source : String) :
    (∃ diagnostics, (a.run source).1 = .error diagnostics) ↔
      (a.start source).scan.errors ≠ [] ∨ (a.start source).scan.draft.undeclaredLabels ≠ [] := by
  constructor
  · rintro ⟨diagnostics, h⟩
    obtain ⟨hne, rfl⟩ := (run_fst_eq_error_iff a source diagnostics).1 h
    exact not_and_or.1 fun hnil => hne (List.append_eq_nil_iff.2 hnil)
  · intro h
    refine ⟨_, (run_fst_eq_error_iff a source _).2 ⟨fun hnil => ?_, rfl⟩⟩
    exact not_and_or.2 h (List.append_eq_nil_iff.1 hnil)

theorem exists_run_fst_eq_ok_iff (a : Analyzer) (source : String) :
    (∃ analysis, (a.run source).1 = .ok analysis) ↔
      (a.start source).scan.errors = [] ∧ (a.start source).scan.draft.undeclaredLabels = [] := by
  constructor
  · rintro ⟨analysis, h⟩
    exact List.append_eq_nil_iff.1 ((run_fst_eq_ok_iff a source analysis).1 h).1
  · intro h
    exact ⟨_, (run_fst_eq_ok_iff a source _).2 ⟨List.append_eq_nil_iff.2 h, rfl⟩⟩

theorem errors_run_eq (a : Analyzer) (source : String) :
    (a.run source).2.errors = diagnosticsOf (a.run source).1 := by
  rw [errors_run, run_fst, diagnosticsOf_analyzeWith]

/-- **An analyzer remembers nothing of what it did, and a run gives all or nothing.** -/
theorem run_after (table : Spellings) (commands : List Command) (source : String) :
    (after table commands).run source = (ofSpellings table).run source ∧
    ((∃ diagnostics, ((after table commands).run source).1 = .error diagnostics) ↔
      ((after table commands).start source).scan.errors ≠ [] ∨
        ((after table commands).start source).scan.draft.undeclaredLabels ≠ []) ∧
    ((∃ analysis, ((after table commands).run source).1 = .ok analysis) ↔
      ((after table commands).start source).scan.errors = [] ∧
        ((after table commands).start source).scan.draft.undeclaredLabels = []) ∧
    (∀ diagnostics, ((after table commands).run source).1 = .error diagnostics →
      ((after table commands).run source).2.errors = diagnostics) ∧
    (∀ analysis, ((after table commands).run source).1 = .ok analysis →
      ((after table commands).run source).2.errors = []) ∧
    ((after table commands).run source).2.IsVoid ∧
    (after table commands).reset = ofSpellings table ∧
    (after table commands).reset.errors = [] ∧ (after table commands).reset.IsVoid := by
  have hreset : (after table commands).reset = ofSpellings table := by
    rw [reset_eq, spellings_after]
  refine ⟨?_, exists_run_fst_eq_error_iff _ source, exists_run_fst_eq_ok_iff _ source,
    fun diagnostics h => ?_, fun analysis h => ?_, isVoid_void _, hreset, errors_reset _, ?_⟩
  · rw [run_eq, spellings_after]
  · rw [errors_run_eq, h, diagnosticsOf]
  · rw [errors_run_eq, h, diagnosticsOf]
  · rw [hreset]
    exact isVoid_ofSpellings table

/-- A declaration that an earlier source leaves open declares nothing, and an earlier use of a name
does not make its declaration a second one. -/
theorem run_after_of_open_line :
    ((after .standard [.run "goto x", .reset, .run "int"]).run "b").1 =
      .error [⟨.variableUndeclared "b", some 1⟩] ∧
    ((after .standard [.run "goto x", .reset, .run "int"]).run "b").2.errors =
      [⟨.variableUndeclared "b", some 1⟩] ∧
    (∃ analysis, ((after .standard [.run "b"]).run "int b").1 = .ok analysis) ∧
    ((after .standard [.run "b"]).run "int b").2.errors = [] := by
  have herror : ((after .standard [.run "goto x", .reset, .run "int"]).run "b").1 =
      .error [⟨.variableUndeclared "b", some 1⟩] := by
    rw [run_fst, spellings_after]
    cbv
  have hok : ((after .standard [.run "b"]).run "int b").1 = .ok
      ⟨[⟨⟨1, "int", .spelling 13⟩, 1, none⟩, ⟨⟨1, "b", .identifier⟩, 2, some 1⟩],
        [⟨"b", 1, "int"⟩], [], []⟩ := by
    rw [run_fst, spellings_after]
    cbv
  exact ⟨herror, (run_after ..).2.2.2.1 _ herror, ⟨_, hok⟩, (run_after ..).2.2.2.2.1 _ hok⟩

end Lexis.Analyzer
