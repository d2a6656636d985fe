import Lexis.Proofs.Acceptance
import Lexis.Proofs.Fields
import Lexis.Proofs.Vocabulary

/-!
# Reading a report

The report of an analysis tells all of it. Its columns are too narrow for long texts and large
numbers, and no column is marked off but by spaces; what makes it legible is what the texts of an
analysis can be.

* `Analysis.Legible`: every text of the analysis is a field, and the codes of its tokens are those
  of no other kind;
* `Token.fields_row`, `Identifier.fields_row`, `Constant.fields_row`, `Label.fields_row`: what
  stands in a row, and `Token.eq_of_fields_row`: who has read a row knows the token;
* `Report.dataRows`, `Report.captions`: the rows that tell of the analysis, and the others, with
  **`Report.IsDataRow.not_mem_captions`**;
* **`Report.eq_of_ofAnalysis_eq`**: legible analyses of the same report are the same;
* **`analysis_legible`**: every analysis of a source is legible;
* **`Report.ofAnalysis_faithful`**: reports are faithful.
-/

namespace Lexis

open Alphabet Report Text

/-! ## What can be read -/

/-- The text is a field, and the code of the kind is that of no other kind. -/
structure Lexeme.Legible (l : Lexeme) : Prop where
  text : IsField l.text
  code_lt : ∀ code, l.kind = .spelling code → code < 100

/-- The type and the name are fields. -/
structure Identifier.Legible (i : Identifier) : Prop where
  name : IsField i.name
  declaredType : IsField i.declaredType

/-- All texts are fields, and codes can be told apart. -/
structure Analysis.Legible (a : Analysis) : Prop where
  tokens : ∀ t ∈ a.tokens, t.toLexeme.Legible
  identifiers : ∀ i ∈ a.identifiers, i.Legible
  constants : ∀ c ∈ a.constants, IsField c.spelling
  labels : ∀ l ∈ a.labels, IsField l.name

/-- The kind that a number in a report stands for. -/
def Kind.ofCode? : Option Nat → Kind
  | some 100 => .identifier
  | some 101 => .constant
  | some 102 => .label
  | some code => .spelling code
  | none => .unmapped

/-- The number of a kind tells the kind, if spellings have codes below those of the other kinds. -/
theorem Kind.ofCode?_code? {kind : Kind} (h : ∀ code, kind = .spelling code → code < 100) :
    ofCode? kind.code? = kind := by
  cases kind with
  | spelling code =>
    have hlt := h code rfl
    rw [code?, ofCode?] <;> omega
  | _ => rfl

/-! ## Rows -/

theorem Report.fields_tokenRow (id line text code index : String) :
    fields (tokenRow id line text code index) =
      fields id ++ fields line ++ fields text ++ fields code ++ fields index := by
  simp only [tokenRow, fields_append_space, fields_alignRight, fields_alignLeft]

/-- **The row of a token has five fields**, however wide its text is. -/
theorem Token.fields_row {t : Token} (h : IsField t.text) :
    fields t.row =
      [toString t.id, toString t.line.toNat, t.text, orDash t.kind.code?, orDash t.index] := by
  rw [row, fields_tokenRow, (isField_toString _).fields_eq, (isField_toString _).fields_eq,
    h.fields_eq, (isField_orDash _).fields_eq, (isField_orDash _).fields_eq]
  rfl

theorem Identifier.fields_row {i : Identifier} (h : i.Legible) :
    fields i.row = [toString i.index, i.name, i.declaredType] := by
  rw [row, fields_append_space, fields_append_space, fields_alignRight, fields_alignLeft,
    (isField_toString _).fields_eq, h.name.fields_eq, h.declaredType.fields_eq]
  rfl

theorem Constant.fields_row {c : Constant} (h : IsField c.spelling) :
    fields c.row = [toString c.index, c.spelling] := by
  rw [row, fields_append_space, fields_alignRight, (isField_toString _).fields_eq, h.fields_eq]
  rfl

theorem Label.fields_row {l : Label} (h : IsField l.name) :
    fields l.row =
      [toString l.index, l.name, "from", orUnset l.lineFrom, "to", orUnset l.lineTo] := by
  have hfrom : (" from " : String) = " " ++ "from" ++ " " := rfl
  have hto : (" to " : String) = " " ++ "to" ++ " " := rfl
  have hword : fields "from" = ["from"] ∧ fields "to" = ["to"] := by decide
  rw [row, hfrom, hto]
  simp only [← String.append_assoc]
  simp only [fields_append_space, fields_alignRight, fields_alignLeft, hword]
  rw [(isField_toString _).fields_eq, h.fields_eq, (isField_orUnset _).fields_eq,
    (isField_orUnset _).fields_eq]
  rfl

/-! ### What a row tells -/

theorem Token.eq_of_fields_row {t u : Token} (ht : t.toLexeme.Legible) (hu : u.toLexeme.Legible)
    (h : fields t.row = fields u.row) : t = u := by
  rw [fields_row ht.text, fields_row hu.text] at h
  simp only [List.cons.injEq, and_true] at h
  obtain ⟨hid, hline, htext, hcode, hindex⟩ := h
  have hid := Nat.repr_inj.1 hid
  have hline := UInt32.toNat_inj.1 (Nat.repr_inj.1 hline)
  have hkind : t.kind = u.kind := by
    rw [← Kind.ofCode?_code? ht.code_lt, orDash_inj.1 hcode, Kind.ofCode?_code? hu.code_lt]
  have hindex := orDash_inj.1 hindex
  cases t; cases u
  rw [Token.mk.injEq, Lexeme.mk.injEq]
  exact ⟨⟨hline, htext, hkind⟩, hid, hindex⟩

theorem Identifier.eq_of_fields_row {i j : Identifier} (hi : i.Legible) (hj : j.Legible)
    (h : fields i.row = fields j.row) : i = j := by
  rw [fields_row hi, fields_row hj] at h
  simp only [List.cons.injEq, and_true] at h
  obtain ⟨hindex, hname, htype⟩ := h
  have hindex := Nat.repr_inj.1 hindex
  cases i; cases j
  rw [Identifier.mk.injEq]
  exact ⟨hname, hindex, htype⟩

theorem Constant.eq_of_fields_row {c d : Constant} (hc : IsField c.spelling)
    (hd : IsField d.spelling) (h : fields c.row = fields d.row) : c = d := by
  rw [fields_row hc, fields_row hd] at h
  simp only [List.cons.injEq, and_true] at h
  obtain ⟨hindex, hspelling⟩ := h
  have hindex := Nat.repr_inj.1 hindex
  cases c; cases d
  rw [Constant.mk.injEq]
  exact ⟨hspelling, hindex⟩

theorem Label.eq_of_fields_row {l m : Label} (hl : IsField l.name) (hm : IsField m.name)
    (h : fields l.row = fields m.row) : l = m := by
  rw [fields_row hl, fields_row hm] at h
  simp only [List.cons.injEq, and_true, true_and] at h
  obtain ⟨hindex, hname, hfrom, hto⟩ := h
  have hindex := Nat.repr_inj.1 hindex
  have hfrom := orUnset_inj.1 hfrom
  have hto := orUnset_inj.1 hto
  cases l; cases m
  rw [Label.mk.injEq]
  exact ⟨hname, hindex, hfrom, hto⟩

/-! ## Rows and captions -/

namespace Report

/-- The rows that tell of the analysis. -/
def dataRows (a : Analysis) : List String :=
  a.tokens.map Token.row ++ a.identifiers.map Identifier.row ++ a.constants.map Constant.row
    ++ a.labels.map Label.row

/-- The rows that every report has: the blank line and the headings. -/
def captions : List String :=
  ["", "Tokens:", tokenRow "id" "line" "text" "code" "idx", "Identifiers:", "Constants:", "Labels:"]

theorem mem_analysisRows_iff {a : Analysis} {row : String} :
    row ∈ analysisRows a ↔ row ∈ captions ∨ row ∈ dataRows a := by
  simp only [analysisRows, captions, dataRows, List.mem_append, List.mem_cons, List.not_mem_nil,
    or_false]
  tauto

/-- The row is made up of fields, the first of which is a number. -/
def IsDataRow (row : String) : Prop :=
  ∃ (n : Nat) (rest : List String), fields row = toString n :: rest ∧ ∀ s ∈ rest, IsField s

theorem IsDataRow.newline_not_mem {row : String} (h : IsDataRow row) : '\n' ∉ row.toList := by
  obtain ⟨n, rest, hfields, hrest⟩ := h
  refine newline_not_mem_of_fields fun field hfield => ?_
  rw [hfields] at hfield
  rcases List.mem_cons.1 hfield with rfl | hfield
  · exact isField_toString n
  · exact hrest field hfield

theorem newline_not_mem_captions : ∀ caption ∈ captions, '\n' ∉ caption.toList := by decide

/-- No caption begins with a number. -/
theorem exists_not_isDigit_of_mem_captions {caption field : String} (h : caption ∈ captions)
    (hfield : field ∈ (fields caption).head?) : ∃ c ∈ field.toList, c.isDigit = false := by
  have hall : (captions.all fun caption =>
      (fields caption).head?.all fun s => s.toList.any fun c => !c.isDigit) = true := by cbv
  simpa using (Option.all_eq_true _ _).1 (List.all_eq_true.1 hall caption h) field hfield

/-- **A row that begins with a number is not taken for a heading or a blank line.** -/
theorem IsDataRow.not_mem_captions {row : String} (h : IsDataRow row) : row ∉ captions := by
  intro hmem
  obtain ⟨n, rest, hfields, -⟩ := h
  have hhead : toString n ∈ (fields row).head? := by rw [hfields]; rfl
  obtain ⟨c, hc, hdigit⟩ := exists_not_isDigit_of_mem_captions hmem hhead
  rw [isDigit_of_mem_toString hc] at hdigit
  cases hdigit

variable {a b : Analysis}

theorem isDataRow_of_mem_dataRows (h : a.Legible) : ∀ row ∈ dataRows a, IsDataRow row := by
  intro row hrow
  simp only [dataRows, List.mem_append, List.mem_map] at hrow
  rcases hrow with ((⟨t, ht, rfl⟩ | ⟨i, hi, rfl⟩) | ⟨c, hc, rfl⟩) | ⟨l, hl, rfl⟩
  · refine ⟨_, _, Token.fields_row (h.tokens t ht).text, ?_⟩
    simp only [List.forall_mem_cons, List.not_mem_nil, false_imp_iff, implies_true, and_true]
    exact ⟨isField_toString _, (h.tokens t ht).text, isField_orDash _, isField_orDash _⟩
  · refine ⟨_, _, Identifier.fields_row (h.identifiers i hi), ?_⟩
    simp [(h.identifiers i hi).name, (h.identifiers i hi).declaredType]
  · refine ⟨_, _, Constant.fields_row (h.constants c hc), ?_⟩
    simp [h.constants c hc]
  · have hfrom : IsField "from" := ⟨by decide, by decide, by decide⟩
    have hto : IsField "to" := ⟨by decide, by decide, by decide⟩
    refine ⟨_, _, Label.fields_row (h.labels l hl), ?_⟩
    simp [h.labels l hl, hfrom, hto, isField_orUnset]

/-- The lines of a report are its rows. -/
theorem lines_ofAnalysis (h : a.Legible) : lines (ofAnalysis a) = analysisRows a := by
  refine lines_ofRows fun row hrow => ?_
  rcases mem_analysisRows_iff.1 hrow with hcaption | hdata
  · exact newline_not_mem_captions row hcaption
  · exact (isDataRow_of_mem_dataRows h row hdata).newline_not_mem

/-! ## Reports -/

/-- Blank lines part the rows of a report into its tables. -/
theorem splitOn_analysisRows (h : a.Legible) :
    (analysisRows a).splitOn "" =
      ["Tokens:" :: tokenRow "id" "line" "text" "code" "idx" :: a.tokens.map Token.row,
        "Identifiers:" :: a.identifiers.map Identifier.row,
        "Constants:" :: a.constants.map Constant.row,
        "Labels:" :: a.labels.map Label.row] := by
  have hblank : "" ∉ dataRows a := fun hmem =>
    (isDataRow_of_mem_dataRows h "" hmem).not_mem_captions (List.mem_cons_self ..)
  simp only [dataRows, List.mem_append, not_or] at hblank
  obtain ⟨⟨⟨htokens, hidentifiers⟩, hconstants⟩, hlabels⟩ := hblank
  have hrows : analysisRows a =
      ("Tokens:" :: tokenRow "id" "line" "text" "code" "idx" :: a.tokens.map Token.row) ++
        "" :: (("Identifiers:" :: a.identifiers.map Identifier.row) ++
          "" :: (("Constants:" :: a.constants.map Constant.row) ++
            "" :: ("Labels:" :: a.labels.map Label.row))) := by
    simp [analysisRows]
  have hcolumns : "" ≠ tokenRow "id" "line" "text" "code" "idx" := by decide
  rw [hrows, List.splitOn_append_cons_self_of_not_mem (by simp [htokens, hcolumns]),
    List.splitOn_append_cons_self_of_not_mem (by simp [hidentifiers]),
    List.splitOn_append_cons_self_of_not_mem (by simp [hconstants]),
    List.splitOn_eq_singleton (by simp [hlabels])]

theorem eq_of_map_eq_map {α β : Type} {p : α → Prop} {f : α → β}
    (hf : ∀ x y, p x → p y → f x = f y → x = y) {xs ys : List α} (hxs : ∀ x ∈ xs, p x)
    (hys : ∀ y ∈ ys, p y) (h : xs.map f = ys.map f) : xs = ys := by
  induction xs generalizing ys with
  | nil => exact (List.map_eq_nil_iff.1 h.symm).symm
  | cons x xs ih =>
    obtain ⟨y, ys, rfl, hhead, htail⟩ := List.map_eq_cons_iff.1 h.symm
    rw [List.forall_mem_cons] at hxs hys
    rw [hf x y hxs.1 hys.1 hhead.symm, ih hxs.2 hys.2 htail.symm]

/-- **Legible analyses of the same report are the same.** -/
theorem eq_of_ofAnalysis_eq (ha : a.Legible) (hb : b.Legible) (h : ofAnalysis a = ofAnalysis b) :
    a = b := by
  have hrows : analysisRows a = analysisRows b := by
    rw [← lines_ofAnalysis ha, h, lines_ofAnalysis hb]
  have htables := congrArg (List.splitOn "") hrows
  rw [splitOn_analysisRows ha, splitOn_analysisRows hb] at htables
  simp only [List.cons.injEq, true_and, and_true] at htables
  obtain ⟨htokens, hidentifiers, hconstants, hlabels⟩ := htables
  have htokens := eq_of_map_eq_map (fun _ _ ht hu heq =>
    Token.eq_of_fields_row ht hu (congrArg fields heq)) ha.tokens hb.tokens htokens
  have hidentifiers := eq_of_map_eq_map (fun _ _ hi hj heq =>
    Identifier.eq_of_fields_row hi hj (congrArg fields heq)) ha.identifiers hb.identifiers
      hidentifiers
  have hconstants := eq_of_map_eq_map (fun _ _ hc hd heq =>
    Constant.eq_of_fields_row hc hd (congrArg fields heq)) ha.constants hb.constants hconstants
  have hlabels := eq_of_map_eq_map (fun _ _ hl hm heq =>
    Label.eq_of_fields_row hl hm (congrArg fields heq)) ha.labels hb.labels hlabels
  cases a; cases b
  rw [Analysis.mk.injEq]
  exact ⟨htokens, hidentifiers, hconstants, hlabels⟩

end Report

/-! ## Analyses of sources -/

theorem isField_of_isLexical {cs : List Char} (hne : cs ≠ [])
    (h : ∀ c ∈ cs, isLexical c = true) : IsField (.ofList cs) where
  ne_nil := by rwa [String.toList_ofList]
  space hmem := by
    rw [String.toList_ofList] at hmem
    exact absurd (h ' ' hmem) (by decide)
  newline hmem := newline_not_mem_of_isLexical h (by rwa [String.toList_ofList] at hmem)

theorem isField_of_isWord {w : List Char} (hw : IsWord w) : IsField (.ofList w) := by
  refine isField_of_isLexical ?_ (isLexical_of_isWord hw)
  obtain ⟨c, cs, rfl, -⟩ := hw.exists_cons
  exact List.cons_ne_nil c cs

theorem isField_newlineText : IsField newlineText := ⟨by decide, by decide, by decide⟩

namespace Lexeme.Spelled

variable {table : Spellings} {l : Lexeme}

theorem isField_text (h : l.Spelled table) : IsField l.text := by
  cases h with
  | keyword hw | identifier hw | target hw => exact isField_of_isWord hw
  | label hw => exact isField_of_isLexical (by simp) (isLexical_of_colon hw)
  | numeral hds => exact isField_of_isLexical hds.1 (isLexical_of_isNumeral hds)
  | negative hds => exact isField_of_isLexical (by simp) (isLexical_of_minus hds)
  | operator hne htext => exact isField_of_isLexical hne fun c hc => (htext c hc).1
  | newline => exact isField_newlineText

theorem isField_symbolName (h : l.Spelled table) : IsField l.symbolName := by
  by_cases hkind : l.kind = .label
  · cases h with
    | target hw =>
      rw [symbolName_of_isWord hw rfl]
      exact isField_of_isWord hw
    | label hw =>
      rw [symbolName_of_label rfl, labelName_of_colon rfl]
      exact isField_of_isWord hw
    | @operator _ text =>
      have hsymbolic := Lexer.isSymbolic_operatorKind table (.ofList text)
      change Lexer.operatorKind table (.ofList text) = .label at hkind
      rw [hkind] at hsymbolic
      cases hsymbolic
    | _ => cases hkind
  · rw [symbolName_of_ne_label hkind]
    exact h.isField_text

end Lexeme.Spelled

theorem Spellings.code_lt_of_standard {spelling : String} {code : Nat}
    (h : standard.code? spelling = some code) : code < 100 := by
  obtain ⟨before, behind, heq, -⟩ := List.lookup_eq_some_iff.1 h
  have hall : ∀ entry ∈ standard.entries, entry.2 < 100 := by decide
  exact hall (spelling, code) (by simp [heq])

theorem Lexeme.Spelled.legible {l : Lexeme} (h : l.Spelled .standard) : l.Legible := by
  refine ⟨h.isField_text, fun code hkind => ?_⟩
  cases h with
  | keyword hw hcode => cases hkind; exact Spellings.code_lt_of_standard hcode
  | @operator _ text =>
    change Lexer.operatorKind _ _ = _ at hkind
    rw [Lexer.operatorKind] at hkind
    cases hcode : Spellings.standard.code? (.ofList text) with
    | none => rw [hcode] at hkind; cases hkind
    | some code' => rw [hcode] at hkind; cases hkind; exact Spellings.code_lt_of_standard hcode
  | newline => cases hkind; decide
  | _ => cases hkind

/-- Without faults every identifier has a type keyword for its type. -/
theorem Flawless.isTypeKeyword_typeOf {ls : List Lexeme} (h : Flawless ls) {name : String}
    (hname : name ∈ symbolNames .identifier ls) : isTypeKeyword (typeOf ls name) = true := by
  rw [← any_isIdentifierOf_iff, ← isSome_firstSighting?, Option.isSome_iff_exists] at hname
  obtain ⟨x, hfirst⟩ := hname
  obtain ⟨type, htype⟩ := Option.isSome_iff_exists.1 (h.isSome_rescannedType? hfirst)
  rw [typeOf, hfirst, Option.map_some, Option.getD_some, typeAt, htype, Option.getD_some]
  obtain ⟨l, hl, rfl⟩ := Option.map_eq_some_iff.1 htype
  have hkeyword := (Option.filter_eq_some_iff.1 hl).2
  rw [Lexeme.isTypeKeyword, Bool.and_eq_true] at hkeyword
  exact hkeyword.2

theorem isField_of_isTypeKeyword {s : String} (h : isTypeKeyword s = true) : IsField s := by
  obtain rfl : s = "int" := by simpa [isTypeKeyword, typeKeywords] using h
  exact ⟨by decide, by decide, by decide⟩

/-- The symbols of lexemes that a lexer finds have fields for names. -/
theorem isField_of_mem_symbolNames {table : Spellings} {ls : List Lexeme}
    (hspelled : ∀ l ∈ ls, l.Spelled table) {kind : Kind} {name : String}
    (hname : name ∈ symbolNames kind ls) : IsField name := by
  obtain ⟨l, hl, -, rfl⟩ := mem_symbolNames_iff.1 hname
  exact (hspelled l hl).isField_symbolName

/-- The analysis of lexemes that a lexer finds is legible, if they have no faults. -/
theorem legible_ofLexemes {ls : List Lexeme} (hspelled : ∀ l ∈ ls, l.Spelled .standard)
    (hflawless : Flawless ls) : (Analysis.ofLexemes ls).Legible where
  tokens t ht := by
    obtain ⟨k, hk, rfl⟩ := List.mem_mapIdx.1 ht
    exact (hspelled _ (List.getElem_mem hk)).legible
  identifiers i hi := by
    obtain ⟨name, hname, index, rfl⟩ := exists_of_mem_symbolsOf hi
    exact ⟨isField_of_mem_symbolNames hspelled hname,
      isField_of_isTypeKeyword (hflawless.isTypeKeyword_typeOf hname)⟩
  constants c hc := by
    obtain ⟨name, hname, index, rfl⟩ := exists_of_mem_symbolsOf hc
    exact isField_of_mem_symbolNames hspelled hname
  labels l hl := by
    obtain ⟨name, hname, index, rfl⟩ := exists_of_mem_symbolsOf hl
    exact isField_of_mem_symbolNames hspelled hname

/-- **Every analysis of a source is legible.** -/
theorem analysis_legible {source : String} {a : Analysis} (h : analyze source = .ok a) :
    a.Legible := by
  obtain ⟨-, hflawless, rfl⟩ := analyzeWith_eq_ok_iff.1 h
  exact legible_ofLexemes (fun l hl => Lexer.spelled_of_mem_pieces _ _ hl) hflawless

/-- **Reports are faithful**: they tell the analysis, also to a reader who goes by lines and
fields. -/
theorem Report.ofAnalysis_faithful {source other : String} {a b : Analysis}
    (ha : analyze source = .ok a) (hb : analyze other = .ok b) :
    (ofAnalysis a = ofAnalysis b → a = b) ∧
      (∀ t ∈ a.tokens, fields t.row =
        [toString t.id, toString t.line.toNat, t.text, orDash t.kind.code?, orDash t.index]) ∧
      (∀ t ∈ a.tokens, ∀ u ∈ b.tokens, fields t.row = fields u.row → t = u) ∧
      lines (ofAnalysis a) = analysisRows a ∧ ∀ row ∈ dataRows a, row ∉ captions := by
  have hla := analysis_legible ha
  have hlb := analysis_legible hb
  refine ⟨eq_of_ofAnalysis_eq hla hlb, fun t ht => Token.fields_row (hla.tokens t ht).text,
    fun t ht u hu => Token.eq_of_fields_row (hla.tokens t ht) (hlb.tokens u hu),
    lines_ofAnalysis hla, fun row hrow => ?_⟩
  exact (isDataRow_of_mem_dataRows hla row hrow).not_mem_captions

/-- A name that is wider than its column, in two sources with the same report. -/
theorem Report.ofAnalysis_faithful_of_wide_name :
    ∃ a b, analyze "int iterationcounter" = .ok a ∧ analyze "\tint  iterationcounter" = .ok b ∧
      a = b ∧
      lines (ofAnalysis a) = ["Tokens:", "  id line text         code  idx",
        "   1    1 int            13    -", "   2    1 iterationcounter  100    1",
        "", "Identifiers:", "   1 iterationcounter int", "", "Constants:", "", "Labels:"] := by
  have hanalyses : ∃ a b, analyze "int iterationcounter" = .ok a ∧
      analyze "\tint  iterationcounter" = .ok b ∧ ofAnalysis a = ofAnalysis b ∧
      analysisRows a = ["Tokens:", "  id line text         code  idx",
        "   1    1 int            13    -", "   2    1 iterationcounter  100    1",
        "", "Identifiers:", "   1 iterationcounter int", "", "Constants:", "", "Labels:"] :=
    ⟨_, _, by cbv, by cbv, by cbv, by cbv⟩
  obtain ⟨a, b, ha, hb, hreports, hrows⟩ := hanalyses
  have h := Report.ofAnalysis_faithful ha hb
  exact ⟨a, b, ha, hb, h.1 hreports, h.2.2.2.1.trans hrows⟩

end Lexis
