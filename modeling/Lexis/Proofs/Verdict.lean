import Lexis.Proofs.Tables

/-!
# What the pieces of a source come to

The outcome for a source can be told from the list of its pieces alone: each lexeme is at fault or
not by what stands before it, each rejected piece is a fault, and the labels that are never declared
come last. So two sources are compared by their pieces, without their tables.

* `lexemeFault?`: the fault of a lexeme, given those before it;
* `inspect`, with `inspect_append`: the diagnostics of pieces in their order;
* `missingLabels`: the labels that lexemes refer to only;
* `verdict`: the outcome of a list of pieces;
* **`Draft.Reachable.diagnostics_foldl_add`**, **`analyzeWith_eq_verdict`**: the diagnostics of a
  draft and the outcome for a source are those of the pieces.
-/

namespace Lexis

/-- The fault of a lexeme, given those before it. -/
def lexemeFault? (before : List Lexeme) (l : Lexeme) : Option Fault :=
  (variableFault? before l).or (labelFault? before l)

/-- The diagnostics of pieces in their order, when the lexemes `before` went before them. -/
def inspect (before : List Lexeme) : List Piece → List Diagnostic
  | [] => []
  | .lexeme l :: ps =>
    ((lexemeFault? before l).map fun fault => ⟨fault, some l.line⟩).toList ++
      inspect (before ++ [l]) ps
  | .rejected d :: ps => d :: inspect before ps
  | .blank :: ps => inspect before ps

/-- The labels among the lexemes that none of them declares, as faults of the whole program. -/
def missingLabels (ls : List Lexeme) : List Diagnostic :=
  ((symbolNames .label ls).eraseDups.filter fun name => declarations name ls = []).map fun name =>
    ⟨.labelNeverDeclared name, none⟩

/-- Everything that is wrong with the pieces of a source. -/
def allFaults (ps : List Piece) : List Diagnostic :=
  inspect [] ps ++ missingLabels (Piece.lexemes ps)

/-- What the pieces of a source come to. -/
def verdict (ps : List Piece) : Except (List Diagnostic) Analysis :=
  match allFaults ps with
  | [] => .ok (.ofLexemes (Piece.lexemes ps))
  | diagnostics => .error diagnostics

theorem lexemeFault?_of_identifier {before : List Lexeme} {l : Lexeme}
    (hkind : l.kind = .identifier) : lexemeFault? before l = variableFault? before l := by
  rw [lexemeFault?, labelFault?, if_neg (by simp [hkind]), Option.or_none]

theorem lexemeFault?_of_ne_identifier {before : List Lexeme} {l : Lexeme}
    (hkind : l.kind ≠ .identifier) : lexemeFault? before l = labelFault? before l := by
  rw [lexemeFault?, variableFault?, if_neg hkind, Option.none_or]

theorem topic_of_lexemeFault? {before : List Lexeme} {l : Lexeme} {fault : Fault}
    (h : lexemeFault? before l = some fault) : fault.topic ≠ .character := by
  rcases Option.or_eq_some_iff.1 h with h | ⟨-, h⟩
  · unfold variableFault? at h
    split_ifs at h <;> cases h <;> nofun
  · unfold labelFault? at h
    split_ifs at h <;> cases h <;> nofun

theorem inspect_append (before : List Lexeme) (ps qs : List Piece) :
    inspect before (ps ++ qs) = inspect before ps ++ inspect (before ++ Piece.lexemes ps) qs := by
  induction ps generalizing before with
  | nil => simp [inspect]
  | cons p ps ih => cases p <;> simp [inspect, ih]

/-- Lexemes are at fault on their lines. -/
theorem isSome_line_of_mem_inspect {ps : List Piece}
    (h : ∀ d, .rejected d ∈ ps → d.line.isSome = true) {before : List Lexeme} {d : Diagnostic}
    (hd : d ∈ inspect before ps) : d.line.isSome = true := by
  induction ps generalizing before with
  | nil => cases hd
  | cons p ps ih =>
    have htail : ∀ e, .rejected e ∈ ps → e.line.isSome = true :=
      fun e he => h e (List.mem_cons_of_mem _ he)
    cases p with
    | lexeme l =>
      rcases List.mem_append.1 hd with hd | hd
      · obtain ⟨fault, -, rfl⟩ := Option.map_eq_some_iff.1 (Option.mem_toList.1 hd)
        rfl
      · exact ih htail hd
    | rejected e =>
      rcases List.mem_cons.1 hd with rfl | hd
      · exact h d (List.mem_cons_self ..)
      · exact ih htail hd
    | blank => exact ih htail hd

/-- Labels without a declaration are all alike but for their names. -/
theorem filter_missingLabels_eq_self {p : Diagnostic → Bool}
    (h : ∀ name, p ⟨.labelNeverDeclared name, none⟩ = true) (ls : List Lexeme) :
    (missingLabels ls).filter p = missingLabels ls := by
  refine List.filter_eq_self.2 fun d hd => ?_
  obtain ⟨name, -, rfl⟩ := List.mem_map.1 hd
  exact h name

namespace Draft

variable {d : Draft}

/-- **The fault of one more lexeme is the one that a rescan finds.** -/
theorem Reachable.fault?_eq (h : d.Reachable) (l : Lexeme) :
    d.fault? l = lexemeFault? d.lexemes l := by
  rw [lexemeFault?, ← h.declared.fault?_eq h.context_eq l, ← h.labelled.fault?_eq l]
  cases hfault : d.fault? l with
  | none => rfl
  | some fault =>
    rcases topic_of_fault? d l hfault with ⟨-, htopic⟩ | ⟨-, htopic⟩ <;>
      simp [Option.filter, htopic]

/-- **The diagnostics that pieces add to a draft.** -/
theorem Reachable.diagnostics_foldl_add (h : d.Reachable) (ps : List Piece)
    (htopic : ∀ e, .rejected e ∈ ps → e.fault.topic = .character) :
    (ps.foldl add d).diagnostics.toList = d.diagnostics.toList ++ inspect d.lexemes ps := by
  induction ps generalizing d with
  | nil => simp [inspect]
  | cons p ps ih =>
    have htail : ∀ e, .rejected e ∈ ps → e.fault.topic = .character :=
      fun e he => htopic e (List.mem_cons_of_mem _ he)
    cases p with
    | lexeme l =>
      rw [List.foldl_cons, add, ih (h.lexeme l) htail, diagnostics_addLexeme, lexemes_addLexeme,
        h.fault?_eq, List.append_assoc]
      rfl
    | rejected e =>
      have he := h.rejected (htopic e (List.mem_cons_self ..))
      rw [List.foldl_cons, add, ih he htail, toList_diagnostics_report, lexemes_report,
        List.append_assoc]
      rfl
    | blank => exact ih h htail

theorem Reachable.undeclaredLabels_eq (h : d.Reachable) :
    d.undeclaredLabels = missingLabels d.lexemes := by
  rw [h.labelled.undeclaredLabels_eq, missingLabels, ← h.numbered.labels.names_eq, List.filter_map,
    List.map_map]
  rfl

theorem diagnostics_scan (table : Spellings) (source : String) :
    (scan table source).diagnostics.toList = inspect [] ((Lexer.ofSource source).pieces table) := by
  rw [scan_eq_foldl]
  exact Reachable.empty.diagnostics_foldl_add _
    fun _ he => Lexer.topic_of_rejected_mem_pieces _ _ he

theorem allDiagnostics_scan (table : Spellings) (source : String) :
    (scan table source).allDiagnostics = allFaults ((Lexer.ofSource source).pieces table) := by
  rw [allDiagnostics, diagnostics_scan, (reachable_scan table source).undeclaredLabels_eq,
    lexemes_scan, allFaults]

theorem toAnalysis_scan (table : Spellings) (source : String) :
    (scan table source).toAnalysis =
      .ofLexemes (Piece.lexemes ((Lexer.ofSource source).pieces table)) := by
  rw [(reachable_scan table source).toAnalysis_eq, lexemes_scan]

end Draft

/-- **The outcome for a source is the verdict on its pieces.** -/
theorem analyzeWith_eq_verdict (table : Spellings) (source : String) :
    analyzeWith table source = verdict ((Lexer.ofSource source).pieces table) := by
  rw [analyzeWith, Draft.finish, Draft.allDiagnostics_scan, Draft.toAnalysis_scan]
  rfl

theorem diagnosticsOf_eq_allFaults (table : Spellings) (source : String) :
    diagnosticsOf (analyzeWith table source) = allFaults ((Lexer.ofSource source).pieces table) := by
  rw [diagnosticsOf_analyzeWith, Draft.allDiagnostics_scan]

/-- No lexeme and no character is at fault with the whole program. -/
theorem topic_of_mem_inspect {table : Spellings} {source : String} {d : Diagnostic}
    (hd : d ∈ inspect [] ((Lexer.ofSource source).pieces table)) : d.fault.topic ≠ .program := by
  rw [← Draft.diagnostics_scan] at hd
  exact (Draft.reachable_scan table source).topic_ne_program hd

end Lexis
