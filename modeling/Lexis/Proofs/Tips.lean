import Lexis.Proofs.Growth
import Lexis.Proofs.Vocabulary

/-!
# What following a tip does

The tip for an identifier that is not declared is a declaration, and the tip for a label that is
never declared is the label with its colon. The declaration on a line in front of the source, or the
label on a line behind it, takes the one diagnostic of the tip away, and no other comes in its place.

* `inspect_map_shift_filter`, `diagnosticsOf_join`: the diagnostics of pieces that lose some faults
  behind other ones, and of two sources with a newline between them;
* `firstSighting?_eq_some_iff`, `lexemeFault?_behind_declaration`: where an identifier is first met,
  and the fault of a lexeme behind a declaration of the identifier;
* `lexemeFault?_label_on_line`, `missingLabels_before_declaration`: a label on a line of its own, and
  the labels that lack a declaration before it;
* `count_undeclared_of_mem`, `count_labelNeverDeclared_of_mem`: both faults are told once;
* **`diagnostics_behind_declaration`**, **`diagnostics_before_label`**: the diagnostics of a source
  behind a declaration and before a label.
-/

namespace Lexis

open Lexer (pieces_of_isMunch pieces_of_rest_eq_nil rest_pass)

/-! ## Diagnostics of joined sources -/

/-- If behind other lexemes only the faults that `keep` holds of are left, the diagnostics are those
with such a fault. -/
theorem inspect_map_shift_filter {table : Spellings} {k : UInt32} {ls : List Lexeme}
    (keep : Fault → Bool) {ps : List Piece} (before : List Lexeme)
    (hrejected : ∀ d, .rejected d ∈ ps → keep d.fault = true)
    (hkeep : ∀ x ∈ historyFrom before (Piece.lexemes ps),
      lexemeFault? (joinLexemes table k ls x.1) (x.2.shift k) =
        (lexemeFault? x.1 x.2).filter keep) :
    inspect (joinLexemes table k ls before) (ps.map (Piece.shift k)) =
      ((inspect before ps).filter fun d => keep d.fault).map (Diagnostic.shift k) := by
  induction ps generalizing before with
  | nil => rfl
  | cons p ps ih =>
    have htail (before : List Lexeme) :=
      ih before fun d hd => hrejected d (List.mem_cons_of_mem _ hd)
    cases p with
    | lexeme l =>
      rw [Piece.lexemes_lexeme_cons, historyFrom, List.forall_mem_cons] at hkeep
      rw [List.map_cons, Piece.shift, inspect, inspect, ← joinLexemes_append_singleton,
        htail _ hkeep.2, hkeep.1, List.filter_append, List.map_append]
      congr 1
      cases lexemeFault? before l with
      | none => rfl
      | some fault => cases hfault : keep fault <;> simp [Option.filter, hfault, Diagnostic.shift]
    | rejected d =>
      rw [Piece.lexemes_rejected_cons] at hkeep
      have hd : keep d.fault = true := hrejected d (List.mem_cons_self ..)
      rw [List.map_cons, Piece.shift, inspect, inspect, htail _ hkeep,
        List.filter_cons_of_pos (by simpa using hd), List.map_cons]
    | blank =>
      rw [Piece.lexemes_blank_cons] at hkeep
      exact htail _ hkeep

/-- **The diagnostics of two sources with a newline between them.** -/
theorem diagnosticsOf_join (table : Spellings) (source other : String) :
    diagnosticsOf (analyzeWith table (source ++ "\n" ++ other)) =
      inspect [] ((Lexer.ofSource source).pieces table) ++
        inspect (joinLexemes table (.ofNat (lineCount source))
            (Piece.lexemes ((Lexer.ofSource source).pieces table)) [])
          (((Lexer.ofSource other).pieces table).map (Piece.shift (.ofNat (lineCount source)))) ++
        missingLabels (joinLexemes table (.ofNat (lineCount source))
          (Piece.lexemes ((Lexer.ofSource source).pieces table))
          (Piece.lexemes ((Lexer.ofSource other).pieces table))) := by
  have hnewline (before : List Lexeme) (k : UInt32) :
      lexemeFault? before (newlineLexeme table k) = none := rfl
  rw [diagnosticsOf_eq_allFaults, allFaults, lexemes_join, pieces_join, inspect_append, inspect,
    hnewline]
  rfl

/-- The diagnostics of pieces lie on the lines of the pieces. -/
theorem exists_line?_of_mem_inspect {before : List Lexeme} {ps : List Piece} {d : Diagnostic}
    (hd : d ∈ inspect before ps) {n : UInt32} (hn : n ∈ d.line) : ∃ p ∈ ps, n ∈ p.line? := by
  induction ps generalizing before with
  | nil => cases hd
  | cons p ps ih =>
    have htail {before : List Lexeme} (hd : d ∈ inspect before ps) :
        ∃ q ∈ p :: ps, n ∈ q.line? := by
      obtain ⟨q, hq, hline⟩ := ih hd
      exact ⟨q, List.mem_cons_of_mem _ hq, hline⟩
    cases p with
    | lexeme l =>
      rcases List.mem_append.1 hd with hd | hd
      · obtain ⟨fault, -, rfl⟩ := Option.map_eq_some_iff.1 (Option.mem_toList.1 hd)
        exact ⟨_, List.mem_cons_self .., hn⟩
      · exact htail hd
    | rejected e =>
      rcases List.mem_cons.1 hd with rfl | hd
      · exact ⟨_, List.mem_cons_self .., hn⟩
      · exact htail hd
    | blank => exact htail hd

/-! ## Identifiers that are not declared -/

section

variable {name : String} {ls : List Lexeme}

theorem variableFault?_eq_undeclared_iff {before : List Lexeme} {l : Lexeme} :
    variableFault? before l = some (.variableUndeclared name) ↔
      l.isIdentifierOf name = true ∧ before.any (Lexeme.isIdentifierOf name) = false ∧
        rescannedType? before = none := by
  rw [Lexeme.isIdentifierOf, Bool.and_eq_true, decide_eq_true_eq, decide_eq_true_eq, variableFault?]
  by_cases hkind : l.kind = .identifier
  · rw [if_pos hkind]
    constructor
    · intro h
      split at h
      · split at h <;> cases h
      · next hany =>
        split at h
        · cases h
        · next htype =>
          obtain rfl : l.text = name := by simpa using h
          exact ⟨⟨hkind, rfl⟩, by simpa using hany, by simpa using htype⟩
    · rintro ⟨⟨-, rfl⟩, hany, htype⟩
      simp [hany, htype]
  · simp [hkind]

/-- The first sighting of an identifier is the only one without another before it. -/
theorem firstSighting?_eq_some_iff {x : List Lexeme × Lexeme} :
    firstSighting? name ls = some x ↔ x ∈ history ls ∧ x.2.isIdentifierOf name = true ∧
      x.1.any (Lexeme.isIdentifierOf name) = false := by
  constructor
  · intro h
    have hsees : x.2.isIdentifierOf name = true := by simpa using List.find?_some h
    exact ⟨List.mem_of_find?_eq_some h, hsees, any_before_firstSighting? h⟩
  rintro ⟨hmem, hsees, hany⟩
  induction ls using List.reverseRecOn with
  | nil => cases hmem
  | append_singleton ls l ih =>
    rw [history_append_singleton, List.mem_append, List.mem_singleton] at hmem
    rw [firstSighting?_append_singleton]
    rcases hmem with hmem | rfl
    · rw [ih hmem, Option.some_or]
    · rw [← isSome_firstSighting?, Option.isSome_eq_false_iff, Option.isNone_iff_eq_none] at hany
      rw [hany, Option.none_or, if_pos hsees]

/-- A rescan tells a fault as often as lexemes have it. -/
theorem count_map_fault_rescan (fault? : List Lexeme → Lexeme → Option Fault) (ls : List Lexeme)
    (fault : Fault) :
    ((rescan fault? ls).map Diagnostic.fault).count fault =
      (sightings (fun before l => fault? before l = some fault) ls).length := by
  have hmap : (rescan fault? ls).map Diagnostic.fault =
      (history ls).filterMap fun x => fault? x.1 x.2 := by
    rw [rescan, List.map_filterMap]
    refine List.filterMap_congr fun x _ => ?_
    cases fault? x.1 x.2 <;> rfl
  rw [hmap, List.count_filterMap, sightings, List.length_map, ← List.countP_eq_length_filter]
  exact List.countP_congr fun x _ => by simp

theorem length_sightings_undeclared_le_one (name : String) (ls : List Lexeme) :
    (sightings (fun before l => variableFault? before l = some (.variableUndeclared name))
      ls).length ≤ 1 := by
  refine length_sightings_le_one fun x _ hx => ?_
  obtain ⟨-, hany, -⟩ := variableFault?_eq_undeclared_iff.1 (of_decide_eq_true hx)
  -- another one before it would be an identifier of that name there
  refine sightings_eq_nil fun l hl before => decide_eq_false fun hfault => ?_
  obtain ⟨hsees, -⟩ := variableFault?_eq_undeclared_iff.1 hfault
  exact List.any_eq_false.1 hany l hl hsees

end

theorem filter_variable_analyzeWith (table : Spellings) (source : String) :
    (diagnosticsOf (analyzeWith table source)).filter (fun d => d.fault.topic = .variable) =
      rescan variableFault? (Piece.lexemes ((Lexer.ofSource source).pieces table)) := by
  rw [diagnosticsOf_analyzeWith, Draft.filter_topic_allDiagnostics _ (by decide),
    (Draft.reachable_scan table source).declared.faults, Draft.lexemes_scan]

theorem count_undeclared (table : Spellings) (source name : String) :
    ((diagnosticsOf (analyzeWith table source)).map Diagnostic.fault).count
        (.variableUndeclared name) =
      (sightings (fun before l => variableFault? before l = some (.variableUndeclared name))
        (Piece.lexemes ((Lexer.ofSource source).pieces table))).length := by
  have hfilter (faults : List Fault) :
      (faults.filter fun fault => fault.topic = .variable).count (.variableUndeclared name) =
        faults.count (.variableUndeclared name) := List.count_filter rfl
  rw [← count_map_fault_rescan, ← filter_variable_analyzeWith, ← hfilter, List.filter_map]
  rfl

/-- An identifier that is told to be undeclared is told so once, and it is not declared where it is
first met. -/
theorem count_undeclared_of_mem {table : Spellings} {source name : String}
    (h : .variableUndeclared name ∈ (diagnosticsOf (analyzeWith table source)).map Diagnostic.fault) :
    ((diagnosticsOf (analyzeWith table source)).map Diagnostic.fault).count
        (.variableUndeclared name) = 1 ∧
      ∃ x, firstSighting? name (Piece.lexemes ((Lexer.ofSource source).pieces table)) = some x ∧
        rescannedType? x.1 = none := by
  have hpos := List.count_pos_iff.2 h
  rw [count_undeclared] at hpos ⊢
  refine ⟨Nat.le_antisymm (length_sightings_undeclared_le_one ..) hpos, ?_⟩
  obtain ⟨l, hl⟩ := List.exists_mem_of_length_pos hpos
  obtain ⟨before, hmem, hfault⟩ := mem_sightings.1 hl
  obtain ⟨hsees, hany, htype⟩ := variableFault?_eq_undeclared_iff.1 (of_decide_eq_true hfault)
  exact ⟨(before, l), firstSighting?_eq_some_iff.2 ⟨hmem, hsees, hany⟩, htype⟩

section

variable {table : Spellings} {k : UInt32} {name : String} {ls ks before : List Lexeme} {l : Lexeme}

/-- **Behind a declaration the identifier is not undeclared any more**, and no other fault changes,
if it was not declared where it is first met. -/
theorem variableFault?_behind_declaration (hls : symbolNames .identifier ls = [name])
    (hfirst : l.isIdentifierOf name = true → before.any (Lexeme.isIdentifierOf name) = false →
      rescannedType? before = none) :
    variableFault? (joinLexemes table k ls before) (l.shift k) =
      (variableFault? before l).filter fun fault => fault ≠ .variableUndeclared name := by
  by_cases hsees : l.isIdentifierOf name = true
  · have hany : (joinLexemes table k ls before).any (Lexeme.isIdentifierOf name) = true := by
      rw [any_isIdentifierOf_iff, symbolNames_joinLexemes table k ls rfl, hls]
      exact List.mem_cons_self ..
    have hundeclared := hfirst hsees
    obtain ⟨hkind, rfl⟩ : l.kind = .identifier ∧ l.text = name := by
      simpa [Lexeme.isIdentifierOf] using hsees
    rw [variableFault?, variableFault?, rescannedType?_joinLexemes, Lexeme.kind_shift,
      Lexeme.text_shift, if_pos hkind, if_pos hany, if_pos hkind]
    cases hbefore : before.any (Lexeme.isIdentifierOf l.text) with
    | true => cases rescannedType? before <;> simp [Option.filter]
    | false => simp [hundeclared hbefore, Option.filter]
  · have hne : variableFault? before l ≠ some (.variableUndeclared name) := fun h =>
      hsees (variableFault?_eq_undeclared_iff.1 h).1
    rw [Lexeme.isIdentifierOf_iff] at hsees
    rw [variableFault?_joinLexemes fun hkind hmem =>
      hsees ⟨hkind, by simpa [hls] using hmem⟩]
    cases hfault : variableFault? before l with
    | none => rfl
    | some fault =>
      have hkeep : fault ≠ .variableUndeclared name := fun heq => hne (hfault.trans (by rw [heq]))
      simp [Option.filter, hkeep]

theorem lexemeFault?_behind_declaration (hls : symbolNames .identifier ls = [name])
    (hlabels : symbolNames .label ls = [])
    (hfirst : l.isIdentifierOf name = true → before.any (Lexeme.isIdentifierOf name) = false →
      rescannedType? before = none) :
    lexemeFault? (joinLexemes table k ls before) (l.shift k) =
      (lexemeFault? before l).filter fun fault => fault ≠ .variableUndeclared name := by
  by_cases hkind : l.kind = .identifier
  · rw [lexemeFault?_of_identifier (l := l.shift k) hkind, lexemeFault?_of_identifier hkind]
    exact variableFault?_behind_declaration hls hfirst
  · rw [lexemeFault?_of_ne_identifier (l := l.shift k) hkind, lexemeFault?_of_ne_identifier hkind,
      labelFault?_joinLexemes fun _ => by simp [hlabels]]
    cases hfault : labelFault? before l with
    | none => rfl
    | some fault =>
      have hkeep : fault ≠ .variableUndeclared name := by
        rintro rfl
        unfold labelFault? at hfault
        split_ifs at hfault
        all_goals cases hfault
      simp [Option.filter, hkeep]

end

/-! ## Labels that are not declared -/

section

variable {table : Spellings} {k : UInt32} {name : String} {ls ks : List Lexeme} {l : Lexeme}

/-- On a line of its own a label is a declaration, whatever ends the lines before. -/
theorem lexemeFault?_label_on_line (hkind : l.kind = .label)
    (hnone : declarations l.labelName ls = []) :
    lexemeFault? (joinLexemes table k ls []) (l.shift k) = none := by
  rw [lexemeFault?_of_ne_identifier (by simp [hkind]), labelFault?, Lexeme.kind_shift,
    if_pos hkind, endsInGoto_joinLexemes, Lexeme.labelName_shift, declarations_joinLexemes, hnone]
  rfl

theorem missingLabels_joinLexemes (hls : symbolNames .label ls = []) :
    missingLabels (joinLexemes table k ls ks) = missingLabels ks := by
  have hdeclarations (name : String) :
      declarations name (joinLexemes table k ls ks) = [] ↔ declarations name ks = [] := by
    rw [declarations_joinLexemes, declarations_eq_nil (by simp [hls]), List.nil_append,
      List.map_eq_nil_iff]
  rw [missingLabels, symbolNames_joinLexemes table k ls rfl, hls, List.nil_append, missingLabels]
  simp only [hdeclarations]

/-- **Before its declaration a label does not lack one any more.** -/
theorem missingLabels_before_declaration (hname : name ∈ symbolNames .label ls)
    (hl : l.isLabelOf name = true) :
    missingLabels (joinLexemes table k ls [l]) =
      (missingLabels ls).filter fun d => d.fault ≠ .labelNeverDeclared name := by
  obtain ⟨hkind, hsymbol⟩ := Lexeme.isLabelOf_iff.1 hl
  have hnames : (symbolNames .label (joinLexemes table k ls [l])).eraseDups =
      (symbolNames .label ls).eraseDups := by
    have hsingle : symbolNames .label [l] = [name] := by simp [symbolNames, hkind, hsymbol]
    rw [symbolNames_joinLexemes table k ls rfl, hsingle, eraseDups_append_singleton, if_pos hname,
      List.append_nil]
  have hdeclarations (other : String) : declarations other (joinLexemes table k ls [l]) = [] ↔
      declarations other ls = [] ∧ other ≠ name := by
    have hsingle : declarations other [l] = [] ↔ other ≠ name := by
      rw [← List.nil_append [l]]
      by_cases heq : other = name
      · rw [heq, declarations_append hl]
        simp [endsInGoto]
      · have hother : l.isLabelOf other = false := by
          rw [← Bool.not_eq_true, Lexeme.isLabelOf_iff, hsymbol]
          exact fun h => heq h.2.symm
        rw [declarations_append_of_ne hother]
        exact iff_of_true rfl heq
    rw [declarations_joinLexemes, List.append_eq_nil_iff, List.map_eq_nil_iff, hsingle]
  rw [missingLabels, hnames, missingLabels, List.filter_map, List.filter_filter]
  congr 1
  refine List.filter_congr fun other _ => ?_
  rw [Bool.eq_iff_iff]
  simp [hdeclarations, and_comm]

theorem labelNeverDeclared_mem_missingLabels_iff :
    .labelNeverDeclared name ∈ (missingLabels ls).map Diagnostic.fault ↔
      name ∈ symbolNames .label ls ∧ declarations name ls = [] := by
  simp [missingLabels]

theorem nodup_map_fault_missingLabels (ls : List Lexeme) :
    ((missingLabels ls).map Diagnostic.fault).Nodup := by
  have hinjective : Function.Injective fun name => Fault.labelNeverDeclared name :=
    fun _ _ h => by simpa using h
  rw [missingLabels, List.map_map]
  exact ((nodup_eraseDups _).filter _).map hinjective

end

theorem labelNeverDeclared_not_mem_inspect (table : Spellings) (source name : String) :
    .labelNeverDeclared name ∉
      (inspect [] ((Lexer.ofSource source).pieces table)).map Diagnostic.fault := by
  intro h
  obtain ⟨d, hd, hfault⟩ := List.mem_map.1 h
  exact topic_of_mem_inspect hd (by rw [hfault]; rfl)

/-- A label that is told to lack a declaration is told so once, and it is one that no lexeme
declares. -/
theorem count_labelNeverDeclared_of_mem {table : Spellings} {source name : String}
    (h : .labelNeverDeclared name ∈ (diagnosticsOf (analyzeWith table source)).map Diagnostic.fault) :
    ((diagnosticsOf (analyzeWith table source)).map Diagnostic.fault).count
        (.labelNeverDeclared name) = 1 ∧
      name ∈ symbolNames .label (Piece.lexemes ((Lexer.ofSource source).pieces table)) ∧
        declarations name (Piece.lexemes ((Lexer.ofSource source).pieces table)) = [] := by
  have hscan := labelNeverDeclared_not_mem_inspect table source name
  rw [diagnosticsOf_eq_allFaults, allFaults, List.map_append] at h ⊢
  have hmissing := (List.mem_append.1 h).resolve_left hscan
  rw [List.count_append, List.count_eq_zero_of_not_mem hscan,
    List.count_eq_one_of_mem (nodup_map_fault_missingLabels _) hmissing]
  exact ⟨rfl, labelNeverDeclared_mem_missingLabels_iff.1 hmissing⟩

/-! ## Lines of their own -/

theorem Lexer.operatorKind_ne {kind : Kind} (hkind : kind.isSymbolic = true) (table : Spellings)
    (text : String) : operatorKind table text ≠ kind := by
  rintro rfl
  rw [isSymbolic_operatorKind] at hkind
  cases hkind

section

variable {table : Spellings} {l : Lexeme}

theorem Lexeme.Spelled.isWord_of_identifier (h : l.Spelled table) (hkind : l.kind = .identifier) :
    IsWord l.text.toList ∧ table.code? l.text = none := by
  cases h with
  | identifier hw hcode => exact ⟨by simpa using hw, hcode⟩
  | operator => exact absurd hkind (Lexer.operatorKind_ne rfl table _)
  | _ => cases hkind

theorem Lexeme.Spelled.isWord_of_label (h : l.Spelled table) (hkind : l.kind = .label) :
    IsWord l.labelName.toList := by
  cases h with
  | target hw hcode =>
    rw [labelName_of_isWord hw rfl]
    simpa using hw
  | label hw =>
    rw [labelName_of_colon rfl]
    simpa using hw
  | operator => exact absurd hkind (Lexer.operatorKind_ne rfl table _)
  | _ => cases hkind

end

/-- The lexemes of a declaration. -/
def declarationLexemes (name : String) : List Lexeme :=
  [⟨1, "int", .spelling 13⟩, ⟨1, name, .identifier⟩]

theorem pieces_declaration {w : List Char} (hw : IsWord w)
    (hcode : Spellings.standard.code? (.ofList w) = none) :
    (Lexer.ofSource ("int " ++ .ofList w)).pieces .standard =
      [.lexeme ⟨1, "int", .spelling 13⟩, .blank, .lexeme ⟨1, .ofList w, .identifier⟩] := by
  generalize hlx : Lexer.ofSource ("int " ++ .ofList w) = lx
  let keyword : Munch := ⟨.word, ['i', 'n', 't']⟩
  let blank : Munch := ⟨.blank, [' ']⟩
  have hkeyword : lx.cursor.rest = keyword.text ++ ' ' :: w := by
    rw [← hlx, Lexer.rest_ofSource]
    simp [keyword]
  have hblank : (lx.pass .standard keyword).cursor.rest = blank.text ++ w := rest_pass hkeyword
  have hword : ((lx.pass .standard keyword).pass .standard blank).cursor.rest =
      (⟨.word, w⟩ : Munch).text ++ [] := by
    rw [rest_pass hblank, List.append_nil]
  have hidentifier : ((lx.pass .standard keyword).pass .standard blank).classify .standard
      ⟨.word, w⟩ = .lexeme ⟨1, .ofList w, .identifier⟩ := by
    rw [Lexer.classify, Lexer.wordKind, hcode, ← hlx]
    rfl
  rw [pieces_of_isMunch (.word (by decide) (by simp [Ends]) (by simp)) hkeyword,
    pieces_of_isMunch (.blank rfl) hblank,
    pieces_of_isMunch (.word hw (by simp [Ends]) (by simp)) hword,
    pieces_of_rest_eq_nil (rest_pass hword), hidentifier, ← hlx]
  rfl

/-- A word with a colon is a label, whatever the table says of the word. -/
theorem pieces_label (table : Spellings) {w : List Char} (hw : IsWord w) :
    (Lexer.ofSource (.ofList w ++ ":")).pieces table =
      [.lexeme ⟨1, .ofList (w ++ [':']), .label⟩] := by
  have hrest : (Lexer.ofSource (.ofList w ++ ":")).cursor.rest =
      (⟨.label, w ++ [':']⟩ : Munch).text ++ [] := by
    rw [Lexer.rest_ofSource]
    simp
  rw [pieces_of_isMunch (.label hw) hrest, pieces_of_rest_eq_nil (rest_pass hrest)]
  rfl

theorem lineCount_declaration {w : List Char} (hw : IsWord w) :
    lineCount ("int " ++ .ofList w) = 1 := by
  have hnewline : '\n' ∉ ("int " ++ String.ofList w).toList := by
    rw [String.toList_append, List.mem_append]
    rintro (h | h)
    · exact absurd h (by decide)
    · rw [String.toList_ofList] at h
      exact absurd (hw.2 '\n' h) (by decide)
  rw [lineCount, List.count_eq_zero_of_not_mem hnewline]

/-! ## Following the tips -/

theorem exists_ok_iff (table : Spellings) (source : String) :
    (∃ a, analyzeWith table source = .ok a) ↔ diagnosticsOf (analyzeWith table source) = [] := by
  rw [diagnosticsOf_analyzeWith, analyzeWith]
  simp [Draft.finish_eq_ok_iff]

/-- Without a fault that is told once nothing is left if and only if there was no other. -/
theorem filter_ne_eq_nil_iff {ds : List Diagnostic} {fault : Fault}
    (hone : (ds.map Diagnostic.fault).count fault = 1) :
    (ds.filter fun d => d.fault ≠ fault) = [] ↔ ds.map Diagnostic.fault = [fault] := by
  constructor
  · intro hnil
    have hall : ∀ other ∈ ds.map Diagnostic.fault, other = fault := by
      rw [List.forall_mem_map]
      exact fun d hd => by simpa using List.filter_eq_nil_iff.1 hnil d hd
    rw [List.eq_replicate_of_mem hall, List.count_replicate_self] at hone
    rw [List.eq_replicate_of_mem hall, hone]
    rfl
  · intro hmap
    refine List.filter_eq_nil_iff.2 fun d hd => ?_
    have hfault : d.fault ∈ ds.map Diagnostic.fault := List.mem_map_of_mem hd
    rw [hmap, List.mem_singleton] at hfault
    simpa using hfault

theorem map_shift_missingLabels (k : UInt32) (ls : List Lexeme) :
    (missingLabels ls).map (Diagnostic.shift k) = missingLabels ls := by
  rw [missingLabels, List.map_map]
  rfl

/-- A declaration in front of a source has no diagnostics of its own. -/
theorem diagnosticsOf_join_declaration {w : List Char} (hw : IsWord w)
    (hcode : Spellings.standard.code? (.ofList w) = none) (source : String) :
    diagnosticsOf (analyzeWith .standard ("int " ++ .ofList w ++ "\n" ++ source)) =
      inspect (joinLexemes .standard 1 (declarationLexemes (.ofList w)) [])
          (((Lexer.ofSource source).pieces .standard).map (Piece.shift 1)) ++
        missingLabels (Piece.lexemes ((Lexer.ofSource source).pieces .standard)) := by
  rw [diagnosticsOf_join, pieces_declaration hw hcode, lineCount_declaration hw,
    missingLabels_joinLexemes rfl]
  rfl

/-- **A declaration in front of the first sighting takes its fault away** and moves the others down,
whatever the numbers of their lines. -/
theorem diagnosticsOf_behind_declaration {w : List Char} (hw : IsWord w)
    (hcode : Spellings.standard.code? (.ofList w) = none) {source : String}
    {x : List Lexeme × Lexeme}
    (hx : firstSighting? (.ofList w) (Piece.lexemes ((Lexer.ofSource source).pieces .standard)) =
      some x) (htype : rescannedType? x.1 = none) :
    diagnosticsOf (analyzeWith .standard ("int " ++ .ofList w ++ "\n" ++ source)) =
      ((diagnosticsOf (analyzeWith .standard source)).filter fun d =>
        d.fault ≠ .variableUndeclared (.ofList w)).map (Diagnostic.shift 1) := by
  rw [diagnosticsOf_join_declaration hw hcode, diagnosticsOf_eq_allFaults, allFaults,
    List.filter_append, filter_missingLabels_eq_self (by simp), List.map_append,
    map_shift_missingLabels]
  congr 1
  refine inspect_map_shift_filter (fun fault => fault ≠ .variableUndeclared (.ofList w)) []
    (fun d hd => decide_eq_true fun heq => ?_) fun y hy => ?_
  · have htopic := Lexer.topic_of_rejected_mem_pieces _ _ hd
    rw [heq] at htopic
    cases htopic
  · refine lexemeFault?_behind_declaration rfl rfl fun hsees hany => ?_
    have hy' := firstSighting?_eq_some_iff.2 ⟨hy, hsees, hany⟩
    rw [← Option.some.inj (hx.symm.trans hy')]
    exact htype

/-- The diagnostics of a source with few enough lines tell the same lines, one further down, if all
is moved down by one. -/
theorem map_behind_map_shift {source : String} {table : Spellings}
    (hfit : source.toList.count '\n' ≤ 2 ^ 32 - 3) {ds : List Diagnostic}
    (hds : ds ⊆ diagnosticsOf (analyzeWith table source)) :
    (ds.map (Diagnostic.shift 1)).map (Diagnostic.behind 0) = ds.map (Diagnostic.behind 1) := by
  rw [List.map_map]
  refine List.map_congr_left fun d hd => Diagnostic.behind_shift (k := 1) fun n hn => ?_
  have hmem := hds hd
  rw [diagnosticsOf_eq_allFaults, allFaults, List.mem_append] at hmem
  rcases hmem with hmem | hmem
  · obtain ⟨p, hp, hline⟩ := exists_line?_of_mem_inspect hmem hn
    have hle := toNat_line?_le_lineCount (by rw [lineCount]; omega) hp hline
    rw [lineCount] at hle
    omega
  · obtain ⟨label, -, rfl⟩ := List.mem_map.1 hmem
    cases hn

/-- **Declaring an identifier that is not declared takes this fault away and makes no other.** -/
theorem diagnostics_behind_declaration {source name : String}
    (hfit : source.toList.count '\n' ≤ 2 ^ 32 - 3)
    (hname : .variableUndeclared name ∈ (diagnosticsOf (analyze source)).map Diagnostic.fault) :
    ((diagnosticsOf (analyze source)).map Diagnostic.fault).count (.variableUndeclared name) = 1 ∧
      (diagnosticsOf (analyze ("int " ++ name ++ "\n" ++ source))).map (Diagnostic.behind 0) =
        ((diagnosticsOf (analyze source)).filter fun d =>
          d.fault ≠ .variableUndeclared name).map (Diagnostic.behind 1) ∧
      ((∃ a, analyze ("int " ++ name ++ "\n" ++ source) = .ok a) ↔
        (diagnosticsOf (analyze source)).map Diagnostic.fault = [.variableUndeclared name]) := by
  obtain ⟨hone, x, hx, htype⟩ := count_undeclared_of_mem hname
  obtain ⟨hmem, hsees, -⟩ := firstSighting?_eq_some_iff.1 hx
  have hspelled := Lexer.spelled_of_mem_pieces .standard (Lexer.ofSource source)
    ((prefix_of_mem_history hmem).subset (List.mem_append_right _ (List.mem_singleton_self x.2)))
  obtain ⟨hkind, rfl⟩ : x.2.kind = .identifier ∧ x.2.text = name := by
    simpa [Lexeme.isIdentifierOf] using hsees
  obtain ⟨hw, hcode⟩ := hspelled.isWord_of_identifier hkind
  rw [← String.ofList_toList (s := x.2.text)] at hx hcode
  have hfaults := diagnosticsOf_behind_declaration hw hcode hx htype
  rw [String.ofList_toList] at hfaults
  refine ⟨hone, ?_, ?_⟩
  · rw [analyze, hfaults, analyze, map_behind_map_shift hfit (List.filter_subset_self ..)]
  · rw [analyze, exists_ok_iff, hfaults, List.map_eq_nil_iff]
    exact filter_ne_eq_nil_iff hone

/-- Sightings on later lines, one of them in a declaration, and other faults around them. -/
theorem diagnostics_behind_declaration_of_late_declaration :
    "goto L\nx = y $\nint x".toList.count '\n' ≤ 2 ^ 32 - 3 ∧
      .variableUndeclared "x" ∈
        (diagnosticsOf (analyze "goto L\nx = y $\nint x")).map Diagnostic.fault ∧
      (diagnosticsOf (analyze ("int " ++ "x" ++ "\n" ++ "goto L\nx = y $\nint x"))).map
          (Diagnostic.behind 0) =
        [(.variableUndeclared "y", some 3), (.unknownSymbol '$', some 3),
          (.variableRedeclared "x", some 4), (.labelNeverDeclared "L", none)] := by
  have hfit : "goto L\nx = y $\nint x".toList.count '\n' ≤ 2 ^ 32 - 3 := by decide
  have hdiagnostics : diagnosticsOf (analyze "goto L\nx = y $\nint x") =
      [⟨.variableUndeclared "x", some 2⟩, ⟨.variableUndeclared "y", some 2⟩,
        ⟨.unknownSymbol '$', some 2⟩, ⟨.variableRedeclared "x", some 3⟩,
        ⟨.labelNeverDeclared "L", none⟩] := by cbv
  have hname : .variableUndeclared "x" ∈
      (diagnosticsOf (analyze "goto L\nx = y $\nint x")).map Diagnostic.fault := by
    rw [hdiagnostics]
    decide
  obtain ⟨-, hbehind, -⟩ := diagnostics_behind_declaration hfit hname
  refine ⟨hfit, hname, ?_⟩
  rw [hbehind, hdiagnostics]
  decide

/-- **A label behind a source takes its fault away**, wherever the source ends. -/
theorem diagnosticsOf_before_label {table : Spellings} {source : String} {w : List Char}
    (hw : IsWord w)
    (hlabel : .ofList w ∈ symbolNames .label
      (Piece.lexemes ((Lexer.ofSource source).pieces table)))
    (hnone : declarations (.ofList w) (Piece.lexemes ((Lexer.ofSource source).pieces table)) = []) :
    diagnosticsOf (analyzeWith table (source ++ "\n" ++ (.ofList w ++ ":"))) =
      (diagnosticsOf (analyzeWith table source)).filter fun d =>
        d.fault ≠ .labelNeverDeclared (.ofList w) := by
  generalize hls : Piece.lexemes ((Lexer.ofSource source).pieces table) = ls at hlabel hnone
  let l : Lexeme := ⟨1, .ofList (w ++ [':']), .label⟩
  have hname : l.labelName = .ofList w := Lexeme.labelName_of_colon rfl
  have hl : l.isLabelOf (.ofList w) = true := by
    rw [Lexeme.isLabelOf, hname]
    simp [l]
  have hfault (k : UInt32) : lexemeFault? (joinLexemes table k ls []) (l.shift k) = none :=
    lexemeFault?_label_on_line rfl (hname ▸ hnone)
  have hscan : ((inspect [] ((Lexer.ofSource source).pieces table)).filter fun d =>
      d.fault ≠ .labelNeverDeclared (.ofList w)) = inspect [] ((Lexer.ofSource source).pieces table) :=
    List.filter_eq_self.2 fun d hd => decide_eq_true fun heq =>
      labelNeverDeclared_not_mem_inspect table source _ (List.mem_map.2 ⟨d, hd, heq⟩)
  rw [diagnosticsOf_join, diagnosticsOf_eq_allFaults, allFaults, hls, List.filter_append, hscan,
    pieces_label table hw, Piece.lexemes_lexeme_cons, Piece.lexemes_nil,
    missingLabels_before_declaration hlabel hl, List.map_singleton, Piece.shift, inspect, hfault]
  simp [inspect]

/-- **Declaring a label that is never declared takes this fault away and makes no other.** -/
theorem diagnostics_before_label (table : Spellings) {source name : String}
    (hname : .labelNeverDeclared name ∈
      (diagnosticsOf (analyzeWith table source)).map Diagnostic.fault) :
    ((diagnosticsOf (analyzeWith table source)).map Diagnostic.fault).count
        (.labelNeverDeclared name) = 1 ∧
      diagnosticsOf (analyzeWith table (source ++ "\n" ++ name ++ ":")) =
        ((diagnosticsOf (analyzeWith table source)).filter fun d =>
          d.fault ≠ .labelNeverDeclared name) ∧
      ((∃ a, analyzeWith table (source ++ "\n" ++ name ++ ":") = .ok a) ↔
        (diagnosticsOf (analyzeWith table source)).map Diagnostic.fault =
          [.labelNeverDeclared name]) := by
  obtain ⟨hone, hlabel, hnone⟩ := count_labelNeverDeclared_of_mem hname
  obtain ⟨l, hl, hkind, rfl⟩ := mem_symbolNames_iff.1 hlabel
  have hw := (Lexer.spelled_of_mem_pieces table _ hl).isWord_of_label hkind
  rw [← Lexeme.symbolName_of_label hkind] at hw
  have hfaults := diagnosticsOf_before_label hw (by rwa [String.ofList_toList])
    (by rwa [String.ofList_toList])
  rw [String.ofList_toList, ← String.append_assoc] at hfaults
  refine ⟨hone, hfaults, ?_⟩
  rw [exists_ok_iff, hfaults]
  exact filter_ne_eq_nil_iff hone

/-- A keyword as a label, a reference at the end of a source, and a minus and an exclamation mark
before the newline. -/
theorem diagnostics_before_label_of_keyword :
    .labelNeverDeclared "int" ∈
        (diagnosticsOf (analyzeWith .standard "goto L\ngoto int:\n!-goto")).map
          Diagnostic.fault ∧
      diagnosticsOf (analyzeWith .standard ("goto L\ngoto int:\n!-goto" ++ "\n" ++ "int" ++ ":")) =
        [⟨.expectedSymbol "!" "=", some 3⟩, ⟨.labelNeverDeclared "L", none⟩] := by
  have hdiagnostics : diagnosticsOf (analyzeWith .standard "goto L\ngoto int:\n!-goto") =
      [⟨.expectedSymbol "!" "=", some 3⟩, ⟨.labelNeverDeclared "L", none⟩,
        ⟨.labelNeverDeclared "int", none⟩] := by cbv
  have hname : .labelNeverDeclared "int" ∈
      (diagnosticsOf (analyzeWith .standard "goto L\ngoto int:\n!-goto")).map
        Diagnostic.fault := by
    rw [hdiagnostics]
    decide
  obtain ⟨-, hbefore, -⟩ := diagnostics_before_label .standard hname
  refine ⟨hname, ?_⟩
  rw [hbefore, hdiagnostics]
  decide

end Lexis
