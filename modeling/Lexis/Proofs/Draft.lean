import Lexis.Analysis
import Lexis.Proofs.Pieces

/-!
# What a piece adds to a draft

Each operation on drafts, field by field, and what a scan keeps.

* `Draft.lexemes`, `Analysis.lexemes`: the tokens without their numbers and indices;
* `Draft.lexemes_addLexeme`, `Draft.context_addLexeme`: a lexeme goes to the end, whatever it is;
* `Draft.fault?`, `Draft.diagnostics_addLexeme`: the fault that a lexeme adds;
* `Draft.Reachable`, **`Draft.reachable_scan`**: what the pieces of a source can lead to;
* `diagnosticsOf`: the diagnostics of an outcome.
-/

namespace Lexis

/-- The tokens of an analysis without their numbers and indices. -/
def Analysis.lexemes (a : Analysis) : List Lexeme := a.tokens.map Token.toLexeme

namespace Draft

/-- The tokens gathered so far without their numbers and indices. -/
def lexemes (d : Draft) : List Lexeme := d.tokens.toList.map Token.toLexeme

@[simp] theorem lexemes_empty : empty.lexemes = [] := rfl

@[simp] theorem lexemes_emit (d : Draft) (l : Lexeme) (index : Option Nat) :
    (d.emit l index).lexemes = d.lexemes ++ [l] := by
  simp [lexemes]

@[simp] theorem context_emit (d : Draft) (l : Lexeme) (index : Option Nat) :
    (d.emit l index).context = d.context.after l := rfl

@[simp] theorem identifiers_emit (d : Draft) (l : Lexeme) (index : Option Nat) :
    (d.emit l index).identifiers = d.identifiers := rfl

@[simp] theorem constants_emit (d : Draft) (l : Lexeme) (index : Option Nat) :
    (d.emit l index).constants = d.constants := rfl

@[simp] theorem labels_emit (d : Draft) (l : Lexeme) (index : Option Nat) :
    (d.emit l index).labels = d.labels := rfl

@[simp] theorem diagnostics_emit (d : Draft) (l : Lexeme) (index : Option Nat) :
    (d.emit l index).diagnostics = d.diagnostics := rfl

@[simp] theorem lexemes_report (d : Draft) (diagnostic : Diagnostic) :
    (d.report diagnostic).lexemes = d.lexemes := rfl

section reportAt

variable (d : Draft) (l : Lexeme) (fault? : Option Fault)

@[simp] theorem lexemes_reportAt : (d.reportAt l fault?).lexemes = d.lexemes := by
  simp [lexemes]

@[simp] theorem context_reportAt : (d.reportAt l fault?).context = d.context := by
  unfold reportAt; split <;> rfl

@[simp] theorem identifiers_reportAt : (d.reportAt l fault?).identifiers = d.identifiers := by
  unfold reportAt; split <;> rfl

@[simp] theorem constants_reportAt : (d.reportAt l fault?).constants = d.constants := by
  unfold reportAt; split <;> rfl

@[simp] theorem labels_reportAt : (d.reportAt l fault?).labels = d.labels := by
  unfold reportAt; split <;> rfl

end reportAt

/-! ## Lexemes -/

variable (d : Draft) (l : Lexeme)

/-- The entry of the label that a lexeme names, a blank one if the name is new. -/
def labelEntry : Label :=
  (d.labels.intern l.labelName fun index => ⟨l.labelName, index, none, none⟩).entry

/-- The fault of one more lexeme. -/
def fault? : Option Fault :=
  match l.kind with
  | .identifier => d.identifierFault? l.text
  | .label =>
    if d.afterGoto then referenceFault? (d.labelEntry l) l.labelName
    else declarationFault? (d.labelEntry l) l.labelName
  | _ => none

@[simp] theorem lexemes_addLexeme : (d.addLexeme l).lexemes = d.lexemes ++ [l] := by
  unfold addLexeme
  split <;> simp [addIdentifier, addConstant, addLabel, lexemes]

@[simp] theorem context_addLexeme : (d.addLexeme l).context = d.context.after l := by
  unfold addLexeme
  split <;> simp [addIdentifier, addConstant, addLabel]

theorem diagnostics_addLexeme :
    (d.addLexeme l).diagnostics.toList =
      d.diagnostics.toList ++ ((d.fault? l).map fun fault => ⟨fault, some l.line⟩).toList := by
  cases hkind : l.kind <;>
    simp [addLexeme, fault?, hkind, addIdentifier, addConstant, addLabel,
      toList_diagnostics_reportAt, labelEntry]

theorem topic_of_fault? {fault : Fault} (h : d.fault? l = some fault) :
    l.kind = .identifier ∧ fault.topic = .variable ∨ l.kind = .label ∧ fault.topic = .label := by
  unfold fault? at h
  split at h
  · next hkind =>
    refine .inl ⟨hkind, ?_⟩
    unfold identifierFault? at h
    split at h <;> cases h <;> rfl
  · next hkind =>
    refine .inr ⟨hkind, ?_⟩
    split at h
    · obtain ⟨_, -, rfl⟩ := Option.map_eq_some_iff.1 h
      rfl
    · obtain ⟨_, -, rfl⟩ := Option.map_eq_some_iff.1 h
      rfl
  · cases h

theorem afterGoto_eq : d.afterGoto = d.lexemes.getLast?.any Lexeme.isGoto := by
  rw [afterGoto, lexemes, List.getLast?_map, Array.getLast?_toList, Option.any_map]

/-! ## The whole program -/

theorem topic_of_mem_undeclaredLabels {diagnostic : Diagnostic}
    (h : diagnostic ∈ d.undeclaredLabels) : diagnostic.fault.topic = .program := by
  obtain ⟨label, -, rfl⟩ := List.mem_map.1 h
  rfl

/-- The faults of the whole program are the only ones that the scan does not find. -/
theorem filter_topic_allDiagnostics {topic : Fault.Topic} (h : topic ≠ .program) :
    d.allDiagnostics.filter (fun x => x.fault.topic = topic) =
      d.diagnostics.toList.filter fun x => x.fault.topic = topic := by
  have hnil : d.undeclaredLabels.filter (fun x => x.fault.topic = topic) = [] := by
    refine List.filter_eq_nil_iff.2 fun diagnostic hmem => ?_
    simpa [topic_of_mem_undeclaredLabels d hmem] using h.symm
  rw [allDiagnostics, List.filter_append, hnil, List.append_nil]

/-! ## Scans -/

theorem lexemes_add (d : Draft) (piece : Piece) :
    (d.add piece).lexemes = d.lexemes ++ piece.lexeme?.toList := by
  cases piece with
  | lexeme l => exact lexemes_addLexeme d l
  | rejected diagnostic =>
    rw [add, lexemes_report]
    exact (List.append_nil _).symm
  | blank => exact (List.append_nil _).symm

theorem lexemes_foldl_add (pieces : List Piece) (d : Draft) :
    (pieces.foldl add d).lexemes = d.lexemes ++ Piece.lexemes pieces := by
  induction pieces generalizing d with
  | nil => simp
  | cons piece pieces ih =>
    rw [List.foldl_cons, ih, lexemes_add, List.append_assoc]
    cases piece <;> simp [Piece.lexeme?]

/-- The lexemes of a scan are those that the lexer finds. -/
theorem lexemes_scan (table : Spellings) (source : String) :
    (scan table source).lexemes = Piece.lexemes ((Lexer.ofSource source).pieces table) := by
  rw [scan_eq_foldl, lexemes_foldl_add, lexemes_empty, List.nil_append]

theorem lexemes_scan_of_ok {table : Spellings} {source : String} {a : Analysis}
    (h : analyzeWith table source = .ok a) : (scan table source).lexemes = a.lexemes := by
  rw [← (finish_eq_ok_iff.1 h).2]
  rfl

/-- The drafts that lexemes and faults of characters lead to. -/
inductive Reachable : Draft → Prop
  | empty : Reachable .empty
  | lexeme {d : Draft} (h : Reachable d) (l : Lexeme) : Reachable (d.addLexeme l)
  | rejected {d : Draft} (h : Reachable d) {diagnostic : Diagnostic}
      (htopic : diagnostic.fault.topic = .character) : Reachable (d.report diagnostic)

theorem Reachable.foldl_add {d : Draft} (h : d.Reachable) (pieces : List Piece)
    (htopic : ∀ diagnostic, .rejected diagnostic ∈ pieces → diagnostic.fault.topic = .character) :
    (pieces.foldl add d).Reachable := by
  induction pieces generalizing d with
  | nil => exact h
  | cons piece pieces ih =>
    refine ih ?_ fun diagnostic hmem => htopic diagnostic (List.mem_cons_of_mem _ hmem)
    cases piece with
    | lexeme l => exact h.lexeme l
    | rejected diagnostic => exact h.rejected (htopic _ (List.mem_cons_self ..))
    | blank => exact h

theorem Reachable.topic_ne_program {d : Draft} (h : d.Reachable) {diagnostic : Diagnostic}
    (hmem : diagnostic ∈ d.diagnostics.toList) : diagnostic.fault.topic ≠ .program := by
  induction h with
  | empty => simp [Draft.empty] at hmem
  | @lexeme d h l ih =>
    rw [diagnostics_addLexeme, List.mem_append] at hmem
    rcases hmem with hmem | hmem
    · exact ih hmem
    · rw [Option.mem_toList, Option.map_eq_some_iff] at hmem
      obtain ⟨fault, hfault, rfl⟩ := hmem
      rcases topic_of_fault? d l hfault with ⟨-, htopic⟩ | ⟨-, htopic⟩ <;> simp [htopic]
  | rejected h htopic ih =>
    rw [toList_diagnostics_report, List.mem_append, List.mem_singleton] at hmem
    rcases hmem with hmem | rfl
    · exact ih hmem
    · simp [htopic]

/-- **What holds of the reachable drafts holds of every scan.** -/
theorem reachable_scan (table : Spellings) (source : String) : (scan table source).Reachable := by
  rw [scan_eq_foldl]
  exact Reachable.empty.foldl_add _ fun _ hmem => Lexer.topic_of_rejected_mem_pieces _ _ hmem

theorem diagnostics_prefix_foldl_add (pieces : List Piece) (d : Draft) :
    d.diagnostics.toList <+: (pieces.foldl add d).diagnostics.toList := by
  induction pieces generalizing d with
  | nil => exact List.prefix_rfl
  | cons piece pieces ih =>
    refine List.IsPrefix.trans ?_ (ih (d.add piece))
    cases piece with
    | lexeme l => rw [add, diagnostics_addLexeme]; exact List.prefix_append ..
    | rejected diagnostic => rw [add, toList_diagnostics_report]; exact List.prefix_append ..
    | blank => exact List.prefix_rfl

theorem mem_diagnostics_of_rejected_mem {diagnostic : Diagnostic} {pieces : List Piece}
    (h : .rejected diagnostic ∈ pieces) (d : Draft) :
    diagnostic ∈ (pieces.foldl add d).diagnostics.toList := by
  obtain ⟨before, behind, rfl⟩ := List.append_of_mem h
  rw [List.foldl_append, List.foldl_cons]
  refine (diagnostics_prefix_foldl_add behind _).subset ?_
  simp [add]

theorem rejected_not_mem_pieces {table : Spellings} {source : String} {a : Analysis}
    (h : analyzeWith table source = .ok a) (diagnostic : Diagnostic) :
    .rejected diagnostic ∉ (Lexer.ofSource source).pieces table := by
  intro hmem
  have hmem' := mem_diagnostics_of_rejected_mem hmem empty
  have hnil := (finish_eq_ok_iff.1 h).1
  rw [allDiagnostics, List.append_eq_nil_iff, scan_eq_foldl] at hnil
  rw [hnil.1] at hmem'
  exact List.not_mem_nil hmem'

end Draft

/-! ## Outcomes -/

/-- The diagnostics of an outcome; an analysis has none. -/
def diagnosticsOf : Except (List Diagnostic) Analysis → List Diagnostic
  | .ok _ => []
  | .error diagnostics => diagnostics

theorem diagnosticsOf_analyzeWith (table : Spellings) (source : String) :
    diagnosticsOf (analyzeWith table source) = (Draft.scan table source).allDiagnostics := by
  rw [analyzeWith, Draft.finish]
  split
  · next h => rw [h]; rfl
  · rfl

end Lexis
