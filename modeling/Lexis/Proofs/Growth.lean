import Lexis.Proofs.Acceptance
import Lexis.Proofs.Juncture
import Lexis.Proofs.Verdict

/-!
# A scan never revises what it has

A draft only grows: tokens, identifiers and constants go to the end, and of a label only a line that
it lacks is filled in. So a source can be scanned line by line. What a scan has at the end of a line
stays, and what it adds for the text behind is what it finds in that text alone, further down.

* `Label.Extends`, `Draft.Grows`: what may become of a label and of a draft;
* `Draft.grows_add`, **`Draft.grows_foldl_add`**: one piece and all pieces of a source let a draft
  grow;
* `pieces_behind_line`: the pieces behind the end of a line;
* `Lexeme.behind`, `Diagnostic.behind`: what a lexeme and a diagnostic tell, behind other lines;
* **`scan_behind_line`**: a scan of a source that goes on behind the end of a line.
-/

namespace Lexis

/-! ## Growing tables -/

namespace SymbolTable

variable {α : Type}

theorem toList_prefix_intern (t : SymbolTable α) (name : String) (make : Nat → α) :
    t.toList <+: (t.intern name make).table.toList := by
  cases hname : t.get? name with
  | some entry => rw [intern_of_some hname]
  | none => rw [intern_of_none hname, toList_push]; exact List.prefix_append ..

/-- A change of one entry leaves every entry in its place. -/
theorem getElem?_toList_modify {t : SymbolTable α} {k : Nat} {entry : α}
    (hk : t.toList[k]? = some entry) (name : String) (f : α → α) :
    (t.modify name f).toList[k]? = some entry ∨ (t.modify name f).toList[k]? = some (f entry) := by
  unfold modify
  split
  · next slot _ =>
    have hentry : t.entries[k]? = some entry := by simpa [toList] using hk
    by_cases heq : slot = k
    · exact .inr (by simp [toList, heq, hentry])
    · exact .inl (by simp [toList, heq, hentry])
  · exact .inl hk

end SymbolTable

/-- The second label is the first one, with no line of it changed that it has. -/
structure Label.Extends (label label' : Label) : Prop where
  name : label'.name = label.name
  index : label'.index = label.index
  lineFrom : ∀ n, label.lineFrom = some n → label'.lineFrom = some n
  lineTo : ∀ n, label.lineTo = some n → label'.lineTo = some n

theorem Label.Extends.refl (label : Label) : label.Extends label :=
  ⟨rfl, rfl, fun _ h => h, fun _ h => h⟩

theorem Label.Extends.trans {a b c : Label} (h : a.Extends b) (h' : b.Extends c) : a.Extends c where
  name := h'.name.trans h.name
  index := h'.index.trans h.index
  lineFrom n hn := h'.lineFrom n (h.lineFrom n hn)
  lineTo n hn := h'.lineTo n (h.lineTo n hn)

/-! ## Growing drafts -/

namespace Draft

/-- The second draft has all that the first one has in the same places, and the labels may have got
more lines. -/
structure Grows (d d' : Draft) : Prop where
  tokens : d.tokens.toList <+: d'.tokens.toList
  identifiers : d.identifiers.toList <+: d'.identifiers.toList
  constants : d.constants.toList <+: d'.constants.toList
  labels : ∀ (k : Nat) (label : Label), d.labels.toList[k]? = some label →
    ∃ label', d'.labels.toList[k]? = some label' ∧ label.Extends label'

theorem Grows.refl (d : Draft) : d.Grows d :=
  ⟨List.prefix_rfl, List.prefix_rfl, List.prefix_rfl, fun _ label h => ⟨label, h, .refl label⟩⟩

theorem Grows.trans {a b c : Draft} (h : a.Grows b) (h' : b.Grows c) : a.Grows c where
  tokens := h.tokens.trans h'.tokens
  identifiers := h.identifiers.trans h'.identifiers
  constants := h.constants.trans h'.constants
  labels k label hk := by
    obtain ⟨label', hk', hextends⟩ := h.labels k label hk
    obtain ⟨label'', hk'', hextends'⟩ := h'.labels k label' hk'
    exact ⟨label'', hk'', hextends.trans hextends'⟩

theorem extends_markLabel (d : Draft) (l : Lexeme) (label : Label) :
    label.Extends (d.markLabel l label) := by
  refine ⟨d.name_markLabel l label, d.index_markLabel l label, fun n hn => ?_, fun n hn => ?_⟩
  · unfold markLabel
    split <;> simp [hn]
  · unfold markLabel
    split <;> simp [hn]

theorem grows_addLexeme (d : Draft) (l : Lexeme) : d.Grows (d.addLexeme l) := by
  refine ⟨?_, ?_, ?_, fun k label hk => ?_⟩
  · rw [tokens_addLexeme]
    exact List.prefix_append ..
  · rw [identifiers_addLexeme]
    split
    · exact d.identifiers.toList_prefix_intern ..
    · exact List.prefix_rfl
  · rw [constants_addLexeme]
    split
    · exact d.constants.toList_prefix_intern ..
    · exact List.prefix_rfl
  · rw [labels_addLexeme]
    split
    · -- interning keeps the place of the label, and marking one label keeps its lines
      have hinterned := List.prefix_iff_getElem?.1 (d.labels.toList_prefix_intern l.labelName
        fun index => ⟨l.labelName, index, none, none⟩)
      obtain ⟨hlt, rfl⟩ := List.getElem?_eq_some_iff.1 hk
      rcases SymbolTable.getElem?_toList_modify (hinterned k hlt) l.labelName (d.markLabel l) with
        h | h
      · exact ⟨_, h, .refl _⟩
      · exact ⟨_, h, d.extends_markLabel l _⟩
    · exact ⟨label, hk, .refl label⟩

/-- **One more piece lets a draft grow.** -/
theorem grows_add (d : Draft) (p : Piece) : d.Grows (d.add p) := by
  cases p with
  | lexeme l => exact d.grows_addLexeme l
  | rejected diagnostic =>
    exact ⟨List.prefix_rfl, List.prefix_rfl, List.prefix_rfl, fun _ label h => ⟨label, h, .refl _⟩⟩
  | blank => exact .refl d

/-- **All pieces of a source let a draft grow.** -/
theorem grows_foldl_add (ps : List Piece) (d : Draft) : d.Grows (ps.foldl add d) := by
  induction ps generalizing d with
  | nil => exact .refl d
  | cons p ps ih => exact (d.grows_add p).trans (ih (d.add p))

end Draft

/-! ## Sources that go on -/

/-- **Behind the end of a line the pieces are those of the text that stands there**, further
down. -/
theorem pieces_behind_line (table : Spellings) (source other : String) :
    (Lexer.ofSource (source ++ "\n" ++ other)).pieces table =
      (Lexer.ofSource (source ++ "\n")).pieces table ++
        ((Lexer.ofSource other).pieces table).map (Piece.shift (.ofNat (lineCount source))) := by
  rw [pieces_join, pieces_line, List.append_assoc]
  rfl

theorem Draft.scan_line (table : Spellings) (source other : String) :
    scan table (source ++ "\n" ++ other) =
      (((Lexer.ofSource other).pieces table).map (Piece.shift (.ofNat (lineCount source)))).foldl
        add (scan table (source ++ "\n")) := by
  rw [scan_eq_foldl, pieces_behind_line, List.foldl_append, scan_eq_foldl]

/-- The text and the kind of a lexeme, and the number of its line when `n` lines go before. -/
def Lexeme.behind (n : Nat) (l : Lexeme) : String × Kind × Nat := (l.text, l.kind, l.line.toNat + n)

/-- The fault, and the number of its line when `n` lines go before. -/
def Diagnostic.behind (n : Nat) (d : Diagnostic) : Fault × Option Nat :=
  (d.fault, d.line.map fun line => line.toNat + n)

theorem toNat_add_ofNat {line : UInt32} {k : Nat} (h : line.toNat + k < 2 ^ 32) :
    (line + .ofNat k).toNat = line.toNat + k := by
  rw [UInt32.toNat_add, UInt32.toNat_ofNat', Nat.add_mod_mod, Nat.mod_eq_of_lt h]

theorem Lexeme.behind_shift {l : Lexeme} {k : Nat} (h : l.line.toNat + k < 2 ^ 32) :
    (l.shift (.ofNat k)).behind 0 = l.behind k := by
  rw [behind, line_shift, toNat_add_ofNat h]
  rfl

theorem Diagnostic.behind_shift {d : Diagnostic} {k : Nat}
    (h : ∀ n ∈ d.line, n.toNat + k < 2 ^ 32) : (d.shift (.ofNat k)).behind 0 = d.behind k := by
  rcases d with ⟨fault, line | line⟩
  · rfl
  · rw [behind, shift, Option.map_some, Option.map_some, toNat_add_ofNat (h line rfl)]
    rfl

theorem Piece.filterMap_rejected?_map_shift (k : UInt32) (ps : List Piece) :
    (ps.map (shift k)).filterMap rejected? = (ps.filterMap rejected?).map (Diagnostic.shift k) := by
  rw [List.filterMap_map, List.map_filterMap]
  exact List.filterMap_congr fun p _ => by cases p <;> rfl

theorem Piece.mem_rejected_iff {d : Diagnostic} {ps : List Piece} :
    d ∈ ps.filterMap rejected? ↔ .rejected d ∈ ps := by
  rw [List.mem_filterMap]
  constructor
  · rintro ⟨p, hp, hd⟩
    cases p with
    | rejected e =>
      obtain rfl := Option.some.inj hd
      exact hp
    | _ => cases hd
  · exact fun h => ⟨_, h, rfl⟩

/-- The diagnostics of characters are the rejected pieces. -/
theorem filter_character_analyzeWith (table : Spellings) (source : String) :
    (diagnosticsOf (analyzeWith table source)).filter (fun d => d.fault.topic = .character) =
      ((Lexer.ofSource source).pieces table).filterMap Piece.rejected? := by
  rw [diagnosticsOf_analyzeWith, Draft.filter_topic_allDiagnostics _ (by decide),
    Draft.filter_character_scan]

/-- The diagnostics with a line are those that the scan finds. -/
theorem filter_line_analyzeWith (table : Spellings) (source : String) :
    (diagnosticsOf (analyzeWith table source)).filter (fun d => d.line.isSome) =
      (Draft.scan table source).diagnostics.toList := by
  have hfound : (Draft.scan table source).diagnostics.toList.filter (fun d => d.line.isSome) =
      (Draft.scan table source).diagnostics.toList := by
    refine List.filter_eq_self.2 fun d hd => ?_
    rw [Draft.diagnostics_scan] at hd
    exact isSome_line_of_mem_inspect
      (fun _ he => (layout_pieces table (Lexer.ofSource source)).isSome_line he) hd
  have hmissing :
      (Draft.scan table source).undeclaredLabels.filter (fun d => d.line.isSome) = [] := by
    refine List.filter_eq_nil_iff.2 fun d hd => ?_
    obtain ⟨label, -, rfl⟩ := List.mem_map.1 hd
    simp
  rw [diagnosticsOf_analyzeWith, Draft.allDiagnostics, List.filter_append, hfound, hmissing,
    List.append_nil]

/-- **A source is scanned line by line, and nothing that a scan has is revised**: a label can only
get a line that it lacks. -/
theorem scan_behind_line (table : Spellings) {source other : String}
    (hfit : (source ++ "\n" ++ other).toList.count '\n' ≤ 2 ^ 32 - 2) :
    (Draft.scan table (source ++ "\n" ++ other)).lexemes.map (Lexeme.behind 0) =
        (Draft.scan table (source ++ "\n")).lexemes.map (Lexeme.behind 0) ++
          (Draft.scan table other).lexemes.map (Lexeme.behind (lineCount source)) ∧
      ((diagnosticsOf (analyzeWith table (source ++ "\n" ++ other))).filter
          fun d => d.fault.topic = .character).map (Diagnostic.behind 0) =
        ((diagnosticsOf (analyzeWith table (source ++ "\n"))).filter
            fun d => d.fault.topic = .character).map (Diagnostic.behind 0) ++
          ((diagnosticsOf (analyzeWith table other)).filter
            fun d => d.fault.topic = .character).map (Diagnostic.behind (lineCount source)) ∧
      (Draft.scan table (source ++ "\n")).Grows (Draft.scan table (source ++ "\n" ++ other)) ∧
      (diagnosticsOf (analyzeWith table (source ++ "\n"))).filter (fun d => d.line.isSome) <+:
        (diagnosticsOf (analyzeWith table (source ++ "\n" ++ other))).filter
          fun d => d.line.isSome := by
  have hcount : lineCount source + lineCount other < 2 ^ 32 := by
    rw [← lineCount_join, lineCount]
    omega
  have hline {p : Piece} (hp : p ∈ (Lexer.ofSource other).pieces table) {n : UInt32}
      (hn : n ∈ p.line?) : n.toNat + lineCount source < 2 ^ 32 := by
    have := toNat_line?_le_lineCount (by omega) hp hn
    omega
  refine ⟨?_, ?_, ?_, ?_⟩
  · rw [Draft.lexemes_scan, Draft.lexemes_scan, Draft.lexemes_scan, pieces_behind_line,
      Piece.lexemes_append, Piece.lexemes_map_shift, List.map_append, List.map_map]
    congr 1
    refine List.map_congr_left fun l hl => Lexeme.behind_shift ?_
    exact hline (Piece.mem_lexemes_iff.1 hl) (Option.mem_some_self _)
  · rw [filter_character_analyzeWith, filter_character_analyzeWith, filter_character_analyzeWith,
      pieces_behind_line, List.filterMap_append, Piece.filterMap_rejected?_map_shift,
      List.map_append, List.map_map]
    congr 1
    refine List.map_congr_left fun d hd => Diagnostic.behind_shift fun n hn => ?_
    exact hline (Piece.mem_rejected_iff.1 hd) hn
  · rw [Draft.scan_line]
    exact Draft.grows_foldl_add ..
  · rw [filter_line_analyzeWith, filter_line_analyzeWith, Draft.scan_line]
    exact Draft.diagnostics_prefix_foldl_add ..

/-- A label that is declared on a later line, and rejected characters on both lines. -/
theorem scan_behind_line_of_reference :
    ("goto L $" ++ "\n" ++ "L: a !").toList.count '\n' ≤ 2 ^ 32 - 2 ∧
      (Draft.scan .standard ("goto L $" ++ "\n" ++ "L: a !")).lexemes.map (Lexeme.behind 0) =
        (Draft.scan .standard ("goto L $" ++ "\n")).lexemes.map (Lexeme.behind 0) ++
          [("L:", .label, 2), ("a", .identifier, 2)] ∧
      ((diagnosticsOf (analyzeWith .standard ("goto L $" ++ "\n" ++ "L: a !"))).filter
          fun d => d.fault.topic = .character).map (Diagnostic.behind 0) =
        [(.unknownSymbol '$', some 1), (.expectedSymbol "!" "=", some 2)] ∧
      (Draft.scan .standard ("goto L $" ++ "\n")).Grows
        (Draft.scan .standard ("goto L $" ++ "\n" ++ "L: a !")) ∧
      (Draft.scan .standard ("goto L $" ++ "\n")).labels.toList = [⟨"L", 1, some 1, none⟩] ∧
      (Draft.scan .standard ("goto L $" ++ "\n" ++ "L: a !")).labels.toList =
        [⟨"L", 1, some 1, some 2⟩] ∧
      [⟨.unknownSymbol '$', some 1⟩] <+:
        (diagnosticsOf (analyzeWith .standard ("goto L $" ++ "\n" ++ "L: a !"))).filter
          fun d => d.line.isSome := by
  have hfit : ("goto L $" ++ "\n" ++ "L: a !").toList.count '\n' ≤ 2 ^ 32 - 2 := by decide
  obtain ⟨hlexemes, hcharacters, hgrows, hfound⟩ := scan_behind_line .standard hfit
  have hother : (Draft.scan .standard "L: a !").lexemes.map (Lexeme.behind (lineCount "goto L $")) =
      [("L:", .label, 2), ("a", .identifier, 2)] := by cbv
  have hline : diagnosticsOf (analyzeWith .standard ("goto L $" ++ "\n")) =
      [⟨.unknownSymbol '$', some 1⟩, ⟨.labelNeverDeclared "L", none⟩] := by cbv
  have hrest : diagnosticsOf (analyzeWith .standard "L: a !") =
      [⟨.variableUndeclared "a", some 1⟩, ⟨.expectedSymbol "!" "=", some 1⟩] := by cbv
  rw [hother] at hlexemes
  rw [hline, hrest] at hcharacters
  rw [hline] at hfound
  exact ⟨hfit, hlexemes, hcharacters.trans (by decide), hgrows, by cbv, by cbv, hfound⟩

end Lexis
