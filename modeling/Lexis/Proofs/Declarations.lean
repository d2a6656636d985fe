import Lexis.Proofs.History
import Lexis.Proofs.SymbolTable

/-!
# Declarations of identifiers

The faults of identifiers and their declared types, found by looking through the whole stream again
for each of them.

* `Lexeme.isIdentifierOf`, `firstSighting?`: the first lexeme that names an identifier;
* `variableFault?`: the fault of a lexeme, given those before it;
* `Draft.Declared`, `Draft.Reachable.declared`: the table of a draft and its faults agree with the
  rescan;
* **`variable_faults_rescan`**: the faults of identifiers that a source has, and the declared types
  in the table of its scan, are those of the rescan.
-/

namespace Lexis

/-- The lexeme is an identifier of that name. -/
def Lexeme.isIdentifierOf (name : String) (l : Lexeme) : Bool :=
  l.kind = .identifier && l.text = name

/-- The first lexeme that is an identifier of that name, with the lexemes before it. -/
def firstSighting? (name : String) (ls : List Lexeme) : Option (List Lexeme × Lexeme) :=
  (history ls).find? fun x => x.2.isIdentifierOf name

/-- The fault of a lexeme: an identifier that was met before must not stand in a declaration, a new
one must. -/
def variableFault? (before : List Lexeme) (l : Lexeme) : Option Fault :=
  if l.kind = .identifier then
    if before.any (Lexeme.isIdentifierOf l.text) then
      if (rescannedType? before).isSome then some (.variableRedeclared l.text) else none
    else if (rescannedType? before).isSome then none else some (.variableUndeclared l.text)
  else none

theorem firstSighting?_append_singleton (name : String) (ls : List Lexeme) (l : Lexeme) :
    firstSighting? name (ls ++ [l]) =
      (firstSighting? name ls).or (if l.isIdentifierOf name then some (ls, l) else none) := by
  rw [firstSighting?, history_append_singleton, List.find?_append]
  cases h : l.isIdentifierOf name <;> simp [firstSighting?, h]

theorem isSome_firstSighting? (name : String) (ls : List Lexeme) :
    (firstSighting? name ls).isSome = ls.any (Lexeme.isIdentifierOf name) := by
  rw [firstSighting?, List.isSome_find?, any_history]

theorem any_before_firstSighting? {name : String} {ls : List Lexeme}
    {x : List Lexeme × Lexeme} (h : firstSighting? name ls = some x) :
    x.1.any (Lexeme.isIdentifierOf name) = false := by
  induction ls using List.reverseRecOn with
  | nil => cases h
  | append_singleton ls l ih =>
    rw [firstSighting?_append_singleton] at h
    cases hfirst : firstSighting? name ls with
    | some y =>
      rw [hfirst, Option.some_or] at h
      exact ih (hfirst.trans h)
    | none =>
      rw [hfirst, Option.none_or, Option.ite_none_right_eq_some] at h
      obtain ⟨-, hx⟩ := h
      cases hx
      rw [← isSome_firstSighting?, hfirst]
      rfl

/-- The type that an identifier gets where it is first met. -/
def typeAt (x : List Lexeme × Lexeme) : String :=
  (rescannedType? x.1).getD Identifier.notDeclared

namespace Draft

variable {d : Draft}

theorem identifiers_addLexeme (d : Draft) (l : Lexeme) :
    (d.addLexeme l).identifiers =
      if l.kind = .identifier then
        (d.identifiers.intern l.text fun index =>
          ⟨l.text, index, d.context.declaredType?.getD Identifier.notDeclared⟩).table
      else d.identifiers := by
  cases hkind : l.kind <;> simp [addLexeme, hkind, addIdentifier, addConstant, addLabel]

/-- The identifiers of a draft and their faults are those that a rescan finds. -/
structure Declared (d : Draft) : Prop where
  keyed : d.identifiers.Keyed
  types : ∀ name, (d.identifiers.get? name).map Identifier.declaredType =
    (firstSighting? name d.lexemes).map typeAt
  faults : d.diagnostics.toList.filter (fun x => x.fault.topic = .variable) =
    rescan variableFault? d.lexemes

theorem Declared.contains_eq (h : d.Declared) (name : String) :
    d.identifiers.contains name = d.lexemes.any (Lexeme.isIdentifierOf name) := by
  rw [← h.keyed.isSome_get?, ← isSome_firstSighting?, ← Option.isSome_map, h.types,
    Option.isSome_map]

theorem Declared.fault?_eq (h : d.Declared) (hcontext : d.context = .ofHistory d.lexemes)
    (l : Lexeme) :
    (d.fault? l).filter (fun fault => fault.topic = .variable) = variableFault? d.lexemes l := by
  by_cases hkind : l.kind = .identifier
  · have hfault : d.fault? l = d.identifierFault? l.text := by rw [fault?, hkind]
    rw [hfault, identifierFault?, h.contains_eq, hcontext, LineContext.declaredType?_ofHistory,
      variableFault?, if_pos hkind]
    cases d.lexemes.any (Lexeme.isIdentifierOf l.text) <;>
      cases rescannedType? d.lexemes <;> rfl
  · rw [variableFault?, if_neg hkind, Option.filter_eq_none_iff]
    intro fault hfault
    have htopic : l.kind = .label ∧ fault.topic = .label := by
      simpa [hkind] using topic_of_fault? d l hfault
    simp [htopic.2]

theorem Declared.types_addLexeme (h : d.Declared) (hcontext : d.context = .ofHistory d.lexemes)
    (l : Lexeme) (name : String) :
    ((d.addLexeme l).identifiers.get? name).map Identifier.declaredType =
      (firstSighting? name (d.addLexeme l).lexemes).map typeAt := by
  rw [identifiers_addLexeme, lexemes_addLexeme, firstSighting?_append_singleton]
  by_cases hsees : l.isIdentifierOf name = true
  · rw [if_pos hsees]
    obtain ⟨hkind, rfl⟩ : l.kind = .identifier ∧ l.text = name := by
      simpa [Lexeme.isIdentifierOf] using hsees
    rw [if_pos hkind, h.keyed.toWellFormed.get?_intern, if_pos rfl]
    have htypes := h.types l.text
    cases hold : d.identifiers.get? l.text with
    | some entry =>
      obtain ⟨x, hx, htype⟩ := Option.map_eq_some_iff.1 (htypes.symm.trans (congrArg _ hold))
      simp [SymbolTable.intern_of_some hold, hx, htype]
    | none =>
      have hx := Option.map_eq_none_iff.1 (htypes.symm.trans (congrArg _ hold))
      simp [SymbolTable.intern_of_none hold, hx, typeAt, hcontext,
        LineContext.declaredType?_ofHistory]
  · rw [if_neg hsees, Option.or_none, ← h.types]
    split
    · next hkind =>
      have hne : name ≠ l.text := by
        rintro rfl
        exact hsees (by simp [Lexeme.isIdentifierOf, hkind])
      rw [h.keyed.toWellFormed.get?_intern, if_neg hne]
    · rfl

/-- **What a draft holds of its identifiers is what a rescan finds.** -/
theorem Reachable.declared (h : d.Reachable) : d.Declared := by
  induction h with
  | empty => exact ⟨SymbolTable.keyed_empty, fun _ => rfl, rfl⟩
  | @lexeme d h l ih =>
    refine ⟨?_, ih.types_addLexeme h.context_eq l,
      filter_topic_addLexeme ih.faults (ih.fault?_eq h.context_eq l)⟩
    rw [identifiers_addLexeme]
    split
    · exact ih.keyed.intern _ _ fun _ => rfl
    · exact ih.keyed
  | rejected h htopic ih =>
    exact ⟨ih.keyed, ih.types, filter_topic_report (by rw [htopic]; decide) ih.faults⟩

end Draft

/-- **Declarations are checked as by a full rescan**, and types are those of the first sightings. -/
theorem variable_faults_rescan (table : Spellings) (source : String) :
    (diagnosticsOf (analyzeWith table source)).filter (fun x => x.fault.topic = .variable) =
        rescan variableFault? (Draft.scan table source).lexemes ∧
      (∀ entry ∈ (Draft.scan table source).identifiers.toList, ∃ before l,
        firstSighting? entry.name (Draft.scan table source).lexemes = some (before, l) ∧
          entry.declaredType = (rescannedType? before).getD "Not Declared") ∧
      ∀ l ∈ (Draft.scan table source).lexemes, l.kind = .identifier →
        ∃ entry ∈ (Draft.scan table source).identifiers.toList, entry.name = l.text := by
  have h := (Draft.reachable_scan table source).declared
  refine ⟨?_, fun entry hentry => ?_, fun l hl hkind => ?_⟩
  · rw [diagnosticsOf_analyzeWith, Draft.filter_topic_allDiagnostics _ (by decide), h.faults]
  · have hget : (Draft.scan table source).identifiers.get? entry.name = some entry :=
      h.keyed.mem_toList_iff.1 hentry
    have htype := h.types entry.name
    rw [hget] at htype
    obtain ⟨⟨before, l⟩, hfirst, htypeAt⟩ := Option.map_eq_some_iff.1 htype.symm
    exact ⟨before, l, hfirst, htypeAt.symm⟩
  · have hcontains : (Draft.scan table source).identifiers.contains l.text = true := by
      rw [h.contains_eq, List.any_eq_true]
      exact ⟨l, hl, by simp [Lexeme.isIdentifierOf, hkind]⟩
    rw [← h.keyed.isSome_get?, Option.isSome_iff_exists] at hcontains
    obtain ⟨entry, hentry⟩ := hcontains
    exact ⟨entry, SymbolTable.mem_toList_of_get? hentry, h.keyed.name_eq _ _ hentry⟩

/-- A declaration that comes too late is a fault of its own. -/
theorem variable_faults_rescan_of_late_declaration :
    (diagnosticsOf (analyzeWith .standard "a\nint a")).filter (fun x => x.fault.topic = .variable) =
        rescan variableFault? (Draft.scan .standard "a\nint a").lexemes ∧
      rescan variableFault? (Draft.scan .standard "a\nint a").lexemes =
        [⟨.variableUndeclared "a", some 1⟩, ⟨.variableRedeclared "a", some 2⟩] := by
  refine ⟨(variable_faults_rescan .standard "a\nint a").1, ?_⟩
  cbv

end Lexis
