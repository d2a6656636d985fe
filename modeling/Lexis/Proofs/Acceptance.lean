import Lexis.Proofs.Tables

/-!
# Sources that are accepted

Whether a source has an analysis can be told from its pieces: no character of it is rejected, and
its lexemes have no faults of identifiers or labels. The lexemes then make the analysis.

* `Piece.rejected?`, `Draft.filter_character_scan`: the diagnostics of characters are those of the
  rejected pieces;
* `Flawless`: lexemes without faults;
* **`analyzeWith_eq_ok_iff`**: the sources that have an analysis, and which one they have.
-/

namespace Lexis

/-- The diagnostic of a rejected character. -/
def Piece.rejected? : Piece → Option Diagnostic
  | .rejected d => some d
  | _ => none

theorem Piece.filterMap_rejected?_eq_nil_iff {ps : List Piece} :
    ps.filterMap rejected? = [] ↔ ∀ d, .rejected d ∉ ps := by
  rw [List.filterMap_eq_nil_iff]
  constructor
  · exact fun h d hd => nomatch h _ hd
  · intro h p hp
    cases p with
    | rejected d => exact absurd hp (h d)
    | _ => rfl

/-- The lexemes have no fault of an identifier or a label, and every label is declared. -/
structure Flawless (ls : List Lexeme) : Prop where
  identifiers : ∀ x ∈ history ls, variableFault? x.1 x.2 = none
  labels : ∀ x ∈ history ls, labelFault? x.1 x.2 = none
  declared : ∀ l ∈ ls, l.kind = .label → declarations l.labelName ls ≠ []

/-- Without faults every identifier is first met in a declaration. -/
theorem Flawless.isSome_rescannedType? {ls : List Lexeme} (h : Flawless ls) {name : String}
    {x : List Lexeme × Lexeme} (hfirst : firstSighting? name ls = some x) :
    (rescannedType? x.1).isSome = true := by
  obtain ⟨hkind, rfl⟩ : x.2.kind = .identifier ∧ x.2.text = name := by
    simpa [Lexeme.isIdentifierOf] using List.find?_some hfirst
  have hfault : variableFault? x.1 x.2 = none := h.identifiers x (List.mem_of_find?_eq_some hfirst)
  rw [variableFault?, if_pos hkind, any_before_firstSighting? hfirst] at hfault
  simpa [Option.isSome_iff_ne_none] using hfault

namespace Draft

variable {d : Draft}

/-- Rejected pieces are what the diagnostics of characters come from. -/
theorem filter_character_foldl_add {ps : List Piece}
    (htopic : ∀ e, .rejected e ∈ ps → e.fault.topic = .character) (d : Draft) :
    (ps.foldl add d).diagnostics.toList.filter (fun x => x.fault.topic = .character) =
      d.diagnostics.toList.filter (fun x => x.fault.topic = .character) ++
        ps.filterMap Piece.rejected? := by
  induction ps generalizing d with
  | nil => simp
  | cons p ps ih =>
    rw [List.foldl_cons, ih fun e he => htopic e (List.mem_cons_of_mem _ he)]
    cases p with
    | lexeme l =>
      have hnone : ((d.fault? l).map fun fault => (⟨fault, some l.line⟩ : Diagnostic)).toList.filter
          (fun x => x.fault.topic = .character) = [] := by
        cases hfault : d.fault? l with
        | none => rfl
        | some fault =>
          rcases topic_of_fault? d l hfault with ⟨-, htopic⟩ | ⟨-, htopic⟩ <;> simp [htopic]
      rw [add, diagnostics_addLexeme, List.filter_append, hnone]
      simp [Piece.rejected?, List.filterMap_cons]
    | rejected e =>
      have he := htopic e (List.mem_cons_self ..)
      simp [add, Piece.rejected?, List.filter_append, he]
    | blank => simp [add, Piece.rejected?, List.filterMap_cons]

theorem filter_character_scan (table : Spellings) (source : String) :
    (scan table source).diagnostics.toList.filter (fun x => x.fault.topic = .character) =
      ((Lexer.ofSource source).pieces table).filterMap Piece.rejected? := by
  rw [scan_eq_foldl]
  exact filter_character_foldl_add (fun e he => Lexer.topic_of_rejected_mem_pieces _ _ he) empty

theorem Reachable.diagnostics_eq_nil_iff (h : d.Reachable) :
    d.diagnostics.toList = [] ↔
      d.diagnostics.toList.filter (fun x => x.fault.topic = .character) = [] ∧
        rescan variableFault? d.lexemes = [] ∧ rescan labelFault? d.lexemes = [] := by
  rw [← h.declared.faults, ← h.labelled.faults]
  constructor
  · intro hnil
    rw [hnil]
    exact ⟨rfl, rfl, rfl⟩
  · rintro ⟨hcharacter, hvariable, hlabel⟩
    refine List.eq_nil_iff_forall_not_mem.2 fun x hx => ?_
    have hprogram := h.topic_ne_program hx
    cases htopic : x.fault.topic
    · exact List.filter_eq_nil_iff.1 hcharacter x hx (by simp [htopic])
    · exact List.filter_eq_nil_iff.1 hvariable x hx (by simp [htopic])
    · exact List.filter_eq_nil_iff.1 hlabel x hx (by simp [htopic])
    · exact hprogram htopic

theorem Labelled.undeclaredLabels_eq_nil_iff (h : d.Labelled) :
    d.undeclaredLabels = [] ↔
      ∀ l ∈ d.lexemes, l.kind = .label → declarations l.labelName d.lexemes ≠ [] := by
  have hnames (name : String) : (∃ label ∈ d.labels.toList, label.name = name) ↔
      ∃ l ∈ d.lexemes, l.isLabelOf name = true := by
    rw [← List.any_eq_true, ← h.known, Option.isSome_iff_exists]
    constructor
    · rintro ⟨label, hlabel, rfl⟩
      exact ⟨label, h.keyed.mem_toList_iff.1 hlabel⟩
    · rintro ⟨label, hget⟩
      exact ⟨label, SymbolTable.mem_toList_of_get? hget, h.keyed.name_eq _ _ hget⟩
  rw [h.undeclaredLabels_eq, List.map_eq_nil_iff, List.filter_eq_nil_iff]
  constructor
  · intro hall l hl hkind hnone
    obtain ⟨label, hlabel, hname⟩ :=
      (hnames l.labelName).2 ⟨l, hl, by simp [Lexeme.isLabelOf, hkind]⟩
    exact hall label hlabel (by simpa [hname] using hnone)
  · intro hall label hlabel hnone
    obtain ⟨l, hl, hsees⟩ := (hnames label.name).1 ⟨label, hlabel, rfl⟩
    obtain ⟨hkind, hname⟩ : l.kind = .label ∧ l.labelName = label.name := by
      simpa [Lexeme.isLabelOf] using hsees
    exact hall l hl hkind (by simpa [hname] using hnone)

theorem allDiagnostics_scan_eq_nil_iff {table : Spellings} {source : String} :
    (scan table source).allDiagnostics = [] ↔
      (∀ d, .rejected d ∉ (Lexer.ofSource source).pieces table) ∧
        Flawless (Piece.lexemes ((Lexer.ofSource source).pieces table)) := by
  have h := reachable_scan table source
  rw [allDiagnostics, List.append_eq_nil_iff, h.diagnostics_eq_nil_iff,
    h.labelled.undeclaredLabels_eq_nil_iff, filter_character_scan,
    Piece.filterMap_rejected?_eq_nil_iff, rescan_eq_nil_iff, rescan_eq_nil_iff, lexemes_scan]
  constructor
  · rintro ⟨⟨hclean, hidentifiers, hlabels⟩, hdeclared⟩
    exact ⟨hclean, hidentifiers, hlabels, hdeclared⟩
  · rintro ⟨hclean, hidentifiers, hlabels, hdeclared⟩
    exact ⟨⟨hclean, hidentifiers, hlabels⟩, hdeclared⟩

end Draft

/-- **A source has an analysis if and only if no character of it is rejected and its lexemes have no
faults**, and this is the analysis of its lexemes. -/
theorem analyzeWith_eq_ok_iff {table : Spellings} {source : String} {a : Analysis} :
    analyzeWith table source = .ok a ↔
      (∀ d, .rejected d ∉ (Lexer.ofSource source).pieces table) ∧
        Flawless (Piece.lexemes ((Lexer.ofSource source).pieces table)) ∧
          a = .ofLexemes (Piece.lexemes ((Lexer.ofSource source).pieces table)) := by
  rw [analyzeWith, Draft.finish_eq_ok_iff, Draft.allDiagnostics_scan_eq_nil_iff,
    (Draft.reachable_scan table source).toAnalysis_eq, Draft.lexemes_scan, and_assoc,
    @eq_comm _ a]

end Lexis
