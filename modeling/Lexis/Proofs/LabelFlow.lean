import Lexis.Proofs.History
import Lexis.Proofs.SymbolTable

/-!
# The flow of labels

Where labels are referred to and declared, found by looking through the whole stream.

* `references`, `declarations`: the lexemes that refer to a label, and those that declare it;
* `firstLine?`: the line of the first of some lexemes;
* `labelFault?`: the fault of a lexeme, given those before it;
* `Draft.Labelled`, `Draft.Reachable.labelled`: the table of a draft and its faults agree with the
  rescan;
* **`label_flow_rescan`**: the lines in the label table, the faults of labels and the labels
  that lack a declaration are those of the rescan; in an analysis every label has exactly one
  declaration and at most one reference.
-/

namespace Lexis

/-- The lexeme is a label of that name. -/
def Lexeme.isLabelOf (name : String) (l : Lexeme) : Bool := l.kind = .label && l.labelName = name

/-- The lexemes end in a `goto`. -/
def endsInGoto (before : List Lexeme) : Bool := before.getLast?.any Lexeme.isGoto

/-- The labels of that name right after a `goto`. -/
def references (name : String) : List Lexeme → List Lexeme :=
  sightings fun before l => l.isLabelOf name && endsInGoto before

/-- The labels of that name anywhere else. -/
def declarations (name : String) : List Lexeme → List Lexeme :=
  sightings fun before l => l.isLabelOf name && !endsInGoto before

/-- The line of the first lexeme. -/
def firstLine? (ls : List Lexeme) : Option UInt32 := ls.head?.map Lexeme.line

/-- The fault of a lexeme: a label may be referred to once and declared once. -/
def labelFault? (before : List Lexeme) (l : Lexeme) : Option Fault :=
  if l.kind = .label then
    if endsInGoto before then
      if references l.labelName before = [] then none else some (.labelReferencedAgain l.labelName)
    else if declarations l.labelName before = [] then none else some (.labelRedeclared l.labelName)
  else none

theorem firstLine?_append_singleton (ls : List Lexeme) (l : Lexeme) :
    firstLine? (ls ++ [l]) = (firstLine? ls).or (some l.line) := by
  cases ls <;> simp [firstLine?]

theorem firstLine?_eq_none_iff {ls : List Lexeme} : firstLine? ls = none ↔ ls = [] := by
  simp [firstLine?]

section

variable {name : String} {ls : List Lexeme} {l : Lexeme}

theorem references_append_of_ne (h : l.isLabelOf name = false) :
    references name (ls ++ [l]) = references name ls := by
  simp [references, sightings_append_singleton, h]

theorem declarations_append_of_ne (h : l.isLabelOf name = false) :
    declarations name (ls ++ [l]) = declarations name ls := by
  simp [declarations, sightings_append_singleton, h]

theorem references_append (h : l.isLabelOf name = true) :
    references name (ls ++ [l]) = references name ls ++ if endsInGoto ls then [l] else [] := by
  simp [references, sightings_append_singleton, h]

theorem declarations_append (h : l.isLabelOf name = true) :
    declarations name (ls ++ [l]) = declarations name ls ++ if endsInGoto ls then [] else [l] := by
  cases hgoto : endsInGoto ls <;> simp [declarations, sightings_append_singleton, h, hgoto]

end

namespace Draft

variable {d : Draft}

theorem afterGoto_eq_endsInGoto (d : Draft) : d.afterGoto = endsInGoto d.lexemes := d.afterGoto_eq

/-- What one more occurrence of a label changes in its entry. -/
def markLabel (d : Draft) (l : Lexeme) (label : Label) : Label :=
  if d.afterGoto then { label with lineFrom := label.lineFrom.or (some l.line) }
  else { label with lineTo := label.lineTo.or (some l.line) }

theorem name_markLabel (d : Draft) (l : Lexeme) (label : Label) :
    (d.markLabel l label).name = label.name := by
  unfold markLabel
  split <;> rfl

theorem labels_addLexeme (d : Draft) (l : Lexeme) :
    (d.addLexeme l).labels =
      if l.kind = .label then
        (d.labels.intern l.labelName fun index => ⟨l.labelName, index, none, none⟩).table.modify
          l.labelName (d.markLabel l)
      else d.labels := by
  cases hkind : l.kind with
  | label =>
    rw [addLexeme, hkind, if_pos rfl]
    rfl
  | _ => simp [addLexeme, hkind, addIdentifier, addConstant]

/-- The entry has the lines that a rescan of the lexemes finds. -/
def HasLines (ls : List Lexeme) (label : Label) : Prop :=
  label.lineFrom = firstLine? (references label.name ls) ∧
    label.lineTo = firstLine? (declarations label.name ls)

/-- The labels of a draft and their faults are those that a rescan finds. -/
structure Labelled (d : Draft) : Prop where
  keyed : d.labels.Keyed
  known : ∀ name, (d.labels.get? name).isSome = d.lexemes.any (Lexeme.isLabelOf name)
  lines : ∀ label ∈ d.labels.toList, HasLines d.lexemes label
  faults : d.diagnostics.toList.filter (fun x => x.fault.topic = .label) =
    rescan labelFault? d.lexemes

theorem Labelled.hasLines_labelEntry (h : d.Labelled) (l : Lexeme) :
    HasLines d.lexemes (d.labelEntry l) ∧ (d.labelEntry l).name = l.labelName := by
  rw [labelEntry]
  cases hold : d.labels.get? l.labelName with
  | some label =>
    rw [SymbolTable.intern_of_some hold]
    exact ⟨h.lines label (SymbolTable.mem_toList_of_get? hold), h.keyed.name_eq _ _ hold⟩
  | none =>
    -- a new label has no lines yet, and a rescan finds none
    have hnone : ∀ k ∈ d.lexemes, k.isLabelOf l.labelName = false := by
      have hknown := h.known l.labelName
      rw [hold] at hknown
      simpa using hknown.symm
    rw [SymbolTable.intern_of_none hold]
    refine ⟨⟨?_, ?_⟩, rfl⟩
    · refine (firstLine?_eq_none_iff.2 (sightings_eq_nil fun k hk before => ?_)).symm
      simp [hnone k hk]
    · refine (firstLine?_eq_none_iff.2 (sightings_eq_nil fun k hk before => ?_)).symm
      simp [hnone k hk]

theorem HasLines.markLabel {label : Label} (h : HasLines d.lexemes label) {l : Lexeme}
    (hl : l.isLabelOf label.name = true) : HasLines (d.lexemes ++ [l]) (d.markLabel l label) := by
  rw [HasLines, name_markLabel, references_append hl, declarations_append hl, Draft.markLabel,
    afterGoto_eq_endsInGoto]
  cases endsInGoto d.lexemes with
  | true =>
    simp only [if_true, List.append_nil, firstLine?_append_singleton]
    exact ⟨by rw [h.1], h.2⟩
  | false =>
    simp only [Bool.false_eq_true, if_false, List.append_nil, firstLine?_append_singleton]
    exact ⟨h.1, by rw [h.2]⟩

theorem HasLines.append {ls : List Lexeme} {label : Label} (h : HasLines ls label) {l : Lexeme}
    (hl : l.isLabelOf label.name = false) : HasLines (ls ++ [l]) label := by
  rw [HasLines, references_append_of_ne hl, declarations_append_of_ne hl]
  exact h

theorem get?_labels_addLexeme (h : d.labels.Keyed) {l : Lexeme} (hkind : l.kind = .label)
    (name : String) :
    (d.addLexeme l).labels.get? name =
      if name = l.labelName then some (d.markLabel l (d.labelEntry l)) else d.labels.get? name := by
  have hwf := h.toWellFormed.intern l.labelName fun index => ⟨l.labelName, index, none, none⟩
  rw [labels_addLexeme, if_pos hkind, hwf.get?_modify, h.toWellFormed.get?_intern]
  split <;> rfl

theorem Labelled.addLexeme_of_label (h : d.Labelled) {l : Lexeme} (hkind : l.kind = .label) :
    (d.addLexeme l).labels.Keyed ∧
      (∀ name, ((d.addLexeme l).labels.get? name).isSome =
        (d.addLexeme l).lexemes.any (Lexeme.isLabelOf name)) ∧
      ∀ label ∈ (d.addLexeme l).labels.toList, HasLines (d.addLexeme l).lexemes label := by
  have hkeyed : (d.addLexeme l).labels.Keyed := by
    have hintern := h.keyed.intern l.labelName (fun index => ⟨l.labelName, index, none, none⟩)
      fun _ => rfl
    rw [labels_addLexeme, if_pos hkind]
    exact hintern.modify l.labelName (name_markLabel d l)
  refine ⟨hkeyed, fun name => ?_, fun label hlabel => ?_⟩
  · rw [get?_labels_addLexeme h.keyed hkind, lexemes_addLexeme, List.any_append, ← h.known]
    by_cases heq : name = l.labelName
    · simp [heq, Lexeme.isLabelOf, hkind]
    · simp [heq, Lexeme.isLabelOf, Ne.symm heq]
  · have hget := hkeyed.mem_toList_iff.1 hlabel
    rw [get?_labels_addLexeme h.keyed hkind] at hget
    rw [lexemes_addLexeme]
    split at hget
    · cases hget
      obtain ⟨hlines, hname⟩ := h.hasLines_labelEntry l
      exact hlines.markLabel (by simp [Lexeme.isLabelOf, hkind, hname])
    · next hne =>
      refine (h.lines label (SymbolTable.mem_toList_of_get? hget)).append ?_
      have hne' : l.labelName ≠ label.name := fun heq => hne heq.symm
      simp [Lexeme.isLabelOf, hne']

theorem Labelled.fault?_eq (h : d.Labelled) (l : Lexeme) :
    (d.fault? l).filter (fun fault => fault.topic = .label) = labelFault? d.lexemes l := by
  by_cases hkind : l.kind = .label
  · obtain ⟨⟨hfrom, hto⟩, hname⟩ := h.hasLines_labelEntry l
    have hfault : d.fault? l =
        if d.afterGoto then referenceFault? (d.labelEntry l) l.labelName
        else declarationFault? (d.labelEntry l) l.labelName := by rw [fault?, hkind]
    rw [hfault, labelFault?, if_pos hkind, afterGoto_eq_endsInGoto, referenceFault?,
      declarationFault?, hfrom, hto, hname]
    cases endsInGoto d.lexemes with
    | true => cases references l.labelName d.lexemes <;> rfl
    | false => cases declarations l.labelName d.lexemes <;> rfl
  · rw [labelFault?, if_neg hkind, Option.filter_eq_none_iff]
    intro fault hfault
    have htopic : l.kind = .identifier ∧ fault.topic = .variable := by
      simpa [hkind] using topic_of_fault? d l hfault
    simp [htopic.2]

theorem Labelled.addLexeme (h : d.Labelled) (l : Lexeme) : (d.addLexeme l).Labelled := by
  have hfaults := filter_topic_addLexeme h.faults (h.fault?_eq l)
  by_cases hkind : l.kind = .label
  · obtain ⟨hkeyed, hknown, hlines⟩ := h.addLexeme_of_label hkind
    exact ⟨hkeyed, hknown, hlines, hfaults⟩
  · have hlabels : (d.addLexeme l).labels = d.labels := by rw [labels_addLexeme, if_neg hkind]
    have hother : ∀ name, l.isLabelOf name = false := fun name => by
      simp [Lexeme.isLabelOf, hkind]
    refine ⟨?_, fun name => ?_, fun label hlabel => ?_, hfaults⟩
    · rw [hlabels]
      exact h.keyed
    · rw [hlabels, h.known, lexemes_addLexeme, List.any_append]
      simp [hother name]
    · rw [hlabels] at hlabel
      rw [lexemes_addLexeme]
      exact (h.lines label hlabel).append (hother label.name)

/-- **What a draft holds of its labels is what a rescan finds.** -/
theorem Reachable.labelled (h : d.Reachable) : d.Labelled := by
  induction h with
  | empty => exact ⟨SymbolTable.keyed_empty, fun _ => rfl, by simp [Draft.empty], rfl⟩
  | lexeme h l ih => exact ih.addLexeme l
  | rejected h htopic ih =>
    exact ⟨ih.keyed, ih.known, ih.lines, filter_topic_report (by rw [htopic]; decide) ih.faults⟩

theorem Labelled.undeclaredLabels_eq (h : d.Labelled) :
    d.undeclaredLabels =
      (d.labels.toList.filter fun label => declarations label.name d.lexemes = []).map
        fun label => ⟨.labelNeverDeclared label.name, none⟩ := by
  rw [undeclaredLabels]
  congr 1
  refine List.filter_congr fun label hlabel => ?_
  rw [(h.lines label hlabel).2]
  cases declarations label.name d.lexemes <;> simp [firstLine?]

end Draft

section

variable {name : String} {before ls : List Lexeme} {l : Lexeme}

theorem references_eq_nil_of_labelFault? (hl : l.isLabelOf name = true)
    (hgoto : endsInGoto before = true) (h : labelFault? before l = none) :
    references name before = [] := by
  obtain ⟨hkind, rfl⟩ : l.kind = .label ∧ l.labelName = name := by
    simpa [Lexeme.isLabelOf] using hl
  simpa [labelFault?, hkind, hgoto] using h

theorem declarations_eq_nil_of_labelFault? (hl : l.isLabelOf name = true)
    (hgoto : endsInGoto before = false) (h : labelFault? before l = none) :
    declarations name before = [] := by
  obtain ⟨hkind, rfl⟩ : l.kind = .label ∧ l.labelName = name := by
    simpa [Lexeme.isLabelOf] using hl
  simpa [labelFault?, hkind, hgoto] using h

theorem length_le_one_of_rescan_eq_nil (h : rescan labelFault? ls = []) (name : String) :
    (references name ls).length ≤ 1 ∧ (declarations name ls).length ≤ 1 := by
  rw [rescan_eq_nil_iff] at h
  constructor
  · refine length_sightings_le_one fun x hx hp => ?_
    obtain ⟨hl, hgoto⟩ := Bool.and_eq_true_iff.1 hp
    exact references_eq_nil_of_labelFault? hl hgoto (h x hx)
  · refine length_sightings_le_one fun x hx hp => ?_
    obtain ⟨hl, hgoto⟩ := Bool.and_eq_true_iff.1 hp
    exact declarations_eq_nil_of_labelFault? hl (by simpa using hgoto) (h x hx)

end

/-- **The flow of labels is tracked exactly**: lines and faults are those that a rescan finds, and
in an analysis every label has one declaration and at most one reference. -/
theorem label_flow_rescan (table : Spellings) (source : String) :
    (∀ label ∈ (Draft.scan table source).labels.toList,
      label.lineFrom = firstLine? (references label.name (Draft.scan table source).lexemes) ∧
        label.lineTo = firstLine? (declarations label.name (Draft.scan table source).lexemes)) ∧
    (∀ l ∈ (Draft.scan table source).lexemes, l.kind = .label →
      ∃ label ∈ (Draft.scan table source).labels.toList, label.name = l.labelName) ∧
    (diagnosticsOf (analyzeWith table source)).filter (fun x => x.fault.topic = .label) =
      rescan labelFault? (Draft.scan table source).lexemes ∧
    (∃ found, (∀ x ∈ found, x.fault.topic ≠ .program) ∧
      diagnosticsOf (analyzeWith table source) = found ++
        ((Draft.scan table source).labels.toList.filter fun label =>
          declarations label.name (Draft.scan table source).lexemes = []).map
            fun label => ⟨.labelNeverDeclared label.name, none⟩) ∧
    ∀ a, analyzeWith table source = .ok a → ∀ label ∈ a.labels,
      (∃ l, declarations label.name a.lexemes = [l] ∧ label.lineTo = some l.line) ∧
        (references label.name a.lexemes).length ≤ 1 := by
  have h := (Draft.reachable_scan table source).labelled
  have hfaults : (diagnosticsOf (analyzeWith table source)).filter
      (fun x => x.fault.topic = .label) = rescan labelFault? (Draft.scan table source).lexemes := by
    rw [diagnosticsOf_analyzeWith, Draft.filter_topic_allDiagnostics _ (by decide), h.faults]
  refine ⟨h.lines, fun l hl hkind => ?_, hfaults, ?_, fun a ha label hlabel => ?_⟩
  · have hknown : ((Draft.scan table source).labels.get? l.labelName).isSome = true := by
      rw [h.known, List.any_eq_true]
      exact ⟨l, hl, by simp [Lexeme.isLabelOf, hkind]⟩
    obtain ⟨label, hlabel⟩ := Option.isSome_iff_exists.1 hknown
    exact ⟨label, SymbolTable.mem_toList_of_get? hlabel, h.keyed.name_eq _ _ hlabel⟩
  · refine ⟨(Draft.scan table source).diagnostics.toList, fun x hx => ?_, ?_⟩
    · exact (Draft.reachable_scan table source).topic_ne_program hx
    · rw [diagnosticsOf_analyzeWith, Draft.allDiagnostics, h.undeclaredLabels_eq]
  · have hlexemes := Draft.lexemes_scan_of_ok ha
    obtain ⟨hnil, rfl⟩ := Draft.finish_eq_ok_iff.1 ha
    rw [ha, hlexemes] at hfaults
    obtain ⟨hreferences, hdeclarations⟩ := length_le_one_of_rescan_eq_nil hfaults.symm label.name
    refine ⟨?_, hreferences⟩
    have hdeclared : declarations label.name (Draft.scan table source).toAnalysis.lexemes ≠ [] := by
      intro hnone
      rw [Draft.allDiagnostics, List.append_eq_nil_iff, h.undeclaredLabels_eq,
        List.map_eq_nil_iff, List.filter_eq_nil_iff] at hnil
      exact hnil.2 label hlabel (by simpa [hlexemes] using hnone)
    obtain ⟨l, hl⟩ := List.length_eq_one_iff.1
      (Nat.le_antisymm hdeclarations (List.length_pos_iff.2 hdeclared))
    refine ⟨l, hl, ?_⟩
    rw [(h.lines label hlabel).2, hlexemes, hl]
    rfl

/-- A label that is declared and then referred to, and labels of which one is referred to and declared
twice and the other one is not declared. -/
theorem label_flow_rescan_of_loop :
    (∃ a, analyzeWith .standard "L: goto L" = .ok a ∧ a.labels = [⟨"L", 1, some 1, some 1⟩] ∧
      ∀ label ∈ a.labels,
        (∃ l, declarations label.name a.lexemes = [l] ∧ label.lineTo = some l.line) ∧
          (references label.name a.lexemes).length ≤ 1) ∧
    (Draft.scan .standard "goto L goto L\nL: L: goto M").labels.toList =
      [⟨"L", 1, some 1, some 2⟩, ⟨"M", 2, some 2, none⟩] ∧
    (diagnosticsOf (analyzeWith .standard "goto L goto L\nL: L: goto M")).filter
      (fun x => x.fault.topic = .label) =
        [⟨.labelReferencedAgain "L", some 1⟩, ⟨.labelRedeclared "L", some 2⟩] ∧
    ∃ found, (∀ x ∈ found, x.fault.topic ≠ .program) ∧
      diagnosticsOf (analyzeWith .standard "goto L goto L\nL: L: goto M") =
        found ++ [⟨.labelNeverDeclared "M", none⟩] := by
  have h : analyzeWith .standard "L: goto L" = .ok
      ⟨[⟨⟨1, "L:", .label⟩, 1, some 1⟩, ⟨⟨1, "goto", .spelling 25⟩, 2, none⟩,
        ⟨⟨1, "L", .label⟩, 3, some 1⟩], [], [], [⟨"L", 1, some 1, some 1⟩]⟩ := by cbv
  obtain ⟨-, -, hfaults, ⟨found, hfound, hall⟩, -⟩ :=
    label_flow_rescan .standard "goto L goto L\nL: L: goto M"
  have hlexemes : (Draft.scan .standard "goto L goto L\nL: L: goto M").lexemes =
      [⟨1, "goto", .spelling 25⟩, ⟨1, "L", .label⟩, ⟨1, "goto", .spelling 25⟩, ⟨1, "L", .label⟩,
        ⟨1, "¶", .spelling 31⟩, ⟨2, "L:", .label⟩, ⟨2, "L:", .label⟩, ⟨2, "goto", .spelling 25⟩,
        ⟨2, "M", .label⟩] := by cbv
  have hlabels : (Draft.scan .standard "goto L goto L\nL: L: goto M").labels.toList =
      [⟨"L", 1, some 1, some 2⟩, ⟨"M", 2, some 2, none⟩] := by cbv
  rw [hlexemes] at hfaults
  rw [hlexemes, hlabels] at hall
  exact ⟨⟨_, h, rfl, (label_flow_rescan .standard "L: goto L").2.2.2.2 _ h⟩, hlabels,
    hfaults.trans (by decide), found, hfound, hall⟩

end Lexis
