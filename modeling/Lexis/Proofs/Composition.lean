import Lexis.Proofs.Juncture

/-!
# Two programs in one source

Two sources that are accepted make up one that is accepted, with a newline between them, unless they
share the name of a variable or of a label. Its analysis comes from the two analyses: all that the
second one counts is counted on from the first one, but constants that the first one has are not
entered again.

* `Analysis.Apart`, `Analysis.join`: the analyses share no names; the analysis of both sources;
* `Analysis.lines`: the numbers of lines in an analysis;
* `Analysis.ofLexemes_joinLexemes`: behind a newline, lexemes lead to the joined analysis;
* **`analyzeWith_join`**: the two sources have an analysis exactly if theirs share no names, and it
  is the joined one.
-/

namespace Lexis

namespace Analysis

/-- No identifier and no label of the first analysis has a name of the second one. -/
def Apart (a b : Analysis) : Prop :=
  (∀ i ∈ a.identifiers, ∀ j ∈ b.identifiers, i.name ≠ j.name) ∧
    ∀ i ∈ a.labels, ∀ j ∈ b.labels, i.name ≠ j.name

instance (a b : Analysis) : Decidable (a.Apart b) := inferInstanceAs (Decidable (_ ∧ _))

/-- The constants of the first analysis, and those that only the second one has. -/
def joinConstants (a b : Analysis) : List Constant :=
  a.constants ++
    (b.constants.filter fun c => c.spelling ∉ a.constants.map Constant.spelling).mapIdx
      fun k c => ⟨c.spelling, k + 1 + a.constants.length⟩

/-- The index that a token of the second analysis has in the joined one. -/
def joinIndex (a b : Analysis) (t : Token) : Option Nat :=
  match t.kind with
  | .identifier => t.index.map (· + a.identifiers.length)
  | .label => t.index.map (· + a.labels.length)
  | .constant => (Symbol.find? (a.joinConstants b) t.text).map Constant.index
  | .spelling _ | .unmapped => t.index

/-- The analysis of two sources with a newline between them, whose first one has `k` lines. -/
def join (table : Spellings) (k : UInt32) (a b : Analysis) : Analysis where
  tokens := a.tokens ++ ⟨newlineLexeme table k, a.tokens.length + 1, none⟩ ::
    b.tokens.map fun t => ⟨t.toLexeme.shift k, t.id + (a.tokens.length + 1), a.joinIndex b t⟩
  identifiers := a.identifiers ++ b.identifiers.map fun i =>
    { i with index := i.index + a.identifiers.length }
  constants := a.joinConstants b
  labels := a.labels ++ b.labels.map fun label =>
    { label with
      index := label.index + a.labels.length
      lineFrom := label.lineFrom.map (· + k)
      lineTo := label.lineTo.map (· + k) }

/-- The numbers of lines in an analysis: those of its tokens and those of its labels. -/
def lines (a : Analysis) : List UInt32 :=
  a.tokens.map (fun t => t.line) ++
    a.labels.flatMap fun label => label.lineFrom.toList ++ label.lineTo.toList

end Analysis

/-! ## Symbols behind a newline -/

section

variable (table : Spellings) (k : UInt32) (ls ks : List Lexeme)

/-- The first source decides what an identifier of it is. -/
theorem typeOf_joinLexemes_of_mem {name : String} (h : name ∈ symbolNames .identifier ls) :
    typeOf (joinLexemes table k ls ks) name = typeOf ls name := by
  rw [← any_isIdentifierOf_iff, ← isSome_firstSighting?, Option.isSome_iff_exists] at h
  obtain ⟨x, hx⟩ := h
  rw [typeOf, firstSighting?_joinLexemes, hx, Option.some_or, typeOf, hx]

theorem typeOf_joinLexemes_of_not_mem {name : String} (h : name ∉ symbolNames .identifier ls) :
    typeOf (joinLexemes table k ls ks) name = typeOf ks name := by
  have htype : (typeAt ∘ fun x => (joinLexemes table k ls x.1, x.2.shift k)) = typeAt :=
    funext fun x => by rw [Function.comp_apply, typeAt, rescannedType?_joinLexemes, typeAt]
  rw [← any_isIdentifierOf_iff, ← isSome_firstSighting?, Option.not_isSome_iff_eq_none] at h
  rw [typeOf, firstSighting?_joinLexemes, h, Option.none_or, typeOf, Option.map_map, htype]

theorem identifiers_joinLexemes
    (h : (symbolNames .identifier ls).Disjoint (symbolNames .identifier ks)) :
    (Analysis.ofLexemes (joinLexemes table k ls ks)).identifiers =
      ((Analysis.ofLexemes ls).join table k (.ofLexemes ks)).identifiers := by
  have hnames : symbolNames .identifier (joinLexemes table k ls ks) = _ :=
    symbolNames_joinLexemes table k ls rfl ks
  simp only [Analysis.ofLexemes, Analysis.join, hnames, symbolsOf_append_of_disjoint _ h,
    map_symbolsOf, length_symbolsOf]
  congr 1
  · refine symbolsOf_congr fun name hname => funext fun index => ?_
    rw [identifierOf, typeOf_joinLexemes_of_mem table k ls ks hname, identifierOf]
  · refine symbolsOf_congr fun name hname => funext fun index => ?_
    rw [identifierOf, typeOf_joinLexemes_of_not_mem table k ls ks fun hmem => h hmem hname,
      identifierOf]

theorem firstLine?_map_shift (ls : List Lexeme) :
    firstLine? (ls.map (Lexeme.shift k)) = (firstLine? ls).map (· + k) := by
  cases ls <;> rfl

theorem labels_joinLexemes (h : (symbolNames .label ls).Disjoint (symbolNames .label ks)) :
    (Analysis.ofLexemes (joinLexemes table k ls ks)).labels =
      ((Analysis.ofLexemes ls).join table k (.ofLexemes ks)).labels := by
  have hnames : symbolNames .label (joinLexemes table k ls ks) = _ :=
    symbolNames_joinLexemes table k ls rfl ks
  simp only [Analysis.ofLexemes, Analysis.join, hnames, symbolsOf_append_of_disjoint _ h,
    map_symbolsOf, length_symbolsOf]
  congr 1
  · refine symbolsOf_congr fun name hname => funext fun index => ?_
    have hother : name ∉ symbolNames .label ks := fun hmem => h hname hmem
    rw [labelOf, references_joinLexemes, declarations_joinLexemes, references_eq_nil hother,
      declarations_eq_nil hother, List.map_nil, List.append_nil, List.append_nil, labelOf]
  · refine symbolsOf_congr fun name hname => funext fun index => ?_
    have hother : name ∉ symbolNames .label ls := fun hmem => h hmem hname
    rw [labelOf, references_joinLexemes, declarations_joinLexemes, references_eq_nil hother,
      declarations_eq_nil hother, List.nil_append, List.nil_append, firstLine?_map_shift,
      firstLine?_map_shift, labelOf]

theorem joinConstants_ofLexemes :
    (Analysis.ofLexemes ls).joinConstants (.ofLexemes ks) =
      symbolsOf Constant.mk (symbolNames .constant ls ++ symbolNames .constant ks) := by
  have hnames (names : List String) :
      (symbolsOf Constant.mk names).map Constant.spelling = names.eraseDups :=
    names_symbolsOf (fun _ _ => rfl) names
  have hnew : ((symbolsOf Constant.mk (symbolNames .constant ks)).filter
      fun c => c.spelling ∉ (symbolNames .constant ls).eraseDups).map Constant.spelling =
        ((symbolNames .constant ks).filter fun c => c ∉ symbolNames .constant ls).eraseDups := by
    rw [eraseDups_filter, ← hnames (symbolNames .constant ks), List.filter_map]
    simp only [List.mem_eraseDups, Function.comp_def]
  rw [symbolsOf_append, Analysis.joinConstants]
  simp only [Analysis.ofLexemes, length_symbolsOf, hnames]
  congr 1
  conv_rhs => rw [symbolsOf, ← hnew, mapIdx_map]

theorem constants_joinLexemes :
    (Analysis.ofLexemes (joinLexemes table k ls ks)).constants =
      ((Analysis.ofLexemes ls).join table k (.ofLexemes ks)).constants := by
  rw [Analysis.join, joinConstants_ofLexemes, ← symbolNames_joinLexemes table k ls rfl]
  rfl

/-! ## Tokens behind a newline -/

variable {ks}

theorem number?_joinLexemes_of_disjoint {l : Lexeme} (hl : l ∈ ks)
    (hkind : l.kind.isSymbolic = true)
    (h : (symbolNames l.kind ls).Disjoint (symbolNames l.kind ks)) :
    (l.shift k).number? (joinLexemes table k ls ks) =
      (l.number? ks).map (· + (symbolNames l.kind ls).eraseDups.length) := by
  rw [Lexeme.number?, Lexeme.number?, Lexeme.kind_shift, if_pos hkind, if_pos hkind,
    symbolNames_joinLexemes table k ls hkind, Option.map_some,
    ← numberIn_append_of_disjoint h (symbolName_mem_symbolNames hl)]
  rfl

variable {ls}

theorem number?_joinLexemes
    (hidentifiers : (symbolNames .identifier ls).Disjoint (symbolNames .identifier ks))
    (hlabels : (symbolNames .label ls).Disjoint (symbolNames .label ks)) {l : Lexeme} (hl : l ∈ ks)
    (id : Nat) :
    (l.shift k).number? (joinLexemes table k ls ks) =
      (Analysis.ofLexemes ls).joinIndex (.ofLexemes ks) ⟨l, id, l.number? ks⟩ := by
  have hmove := number?_joinLexemes_of_disjoint table k ls hl
  have hname := symbolName_mem_symbolNames hl
  cases hkind : l.kind with
  | identifier =>
    rw [hkind] at hmove
    simp only [hmove rfl hidentifiers, Analysis.joinIndex, hkind, Analysis.ofLexemes,
      length_symbolsOf]
  | label =>
    rw [hkind] at hmove
    simp only [hmove rfl hlabels, Analysis.joinIndex, hkind, Analysis.ofLexemes, length_symbolsOf]
  | constant =>
    have htext : l.symbolName = l.text := Lexeme.symbolName_of_ne_label (by simp [hkind])
    rw [hkind, htext] at hname
    have hfound : (Symbol.find? (symbolsOf Constant.mk
        (symbolNames .constant ls ++ symbolNames .constant ks)) l.text).map Constant.index = _ :=
      index_find?_symbolsOf (fun _ _ => rfl) (fun _ _ => rfl) (List.mem_append_right _ hname)
    simp only [Analysis.joinIndex, hkind, joinConstants_ofLexemes]
    rw [hfound, Lexeme.number?, Lexeme.kind_shift, hkind, symbolNames_joinLexemes table k ls rfl,
      ← htext]
    rfl
  | _ => simp [Analysis.joinIndex, Lexeme.number?, hkind, Kind.isSymbolic]

theorem tokens_joinLexemes
    (hidentifiers : (symbolNames .identifier ls).Disjoint (symbolNames .identifier ks))
    (hlabels : (symbolNames .label ls).Disjoint (symbolNames .label ks)) :
    (Analysis.ofLexemes (joinLexemes table k ls ks)).tokens =
      ((Analysis.ofLexemes ls).join table k (.ofLexemes ks)).tokens := by
  have hfirst : (ls.mapIdx fun i l => (⟨l, i + 1, l.number? (joinLexemes table k ls ks)⟩ : Token)) =
      ls.mapIdx fun i l => ⟨l, i + 1, l.number? ls⟩ :=
    List.mapIdx_eq_mapIdx_iff.2 fun i hi => by
      rw [joinLexemes, Lexeme.number?_append (List.getElem_mem hi)]
  have hsecond : ((ks.map (Lexeme.shift k)).mapIdx fun i l =>
        (⟨l, i + 1 + ls.length + 1, l.number? (joinLexemes table k ls ks)⟩ : Token)) =
      (Analysis.ofLexemes ks).tokens.map fun t =>
        ⟨t.toLexeme.shift k, t.id + (ls.length + 1),
          (Analysis.ofLexemes ls).joinIndex (.ofLexemes ks) t⟩ := by
    refine List.ext_getElem (by simp [Analysis.ofLexemes]) fun i hi _ => ?_
    have hmem : i < ks.length := by simpa using hi
    simp only [Analysis.ofLexemes, List.getElem_map, List.getElem_mapIdx]
    rw [number?_joinLexemes table k hidentifiers hlabels (List.getElem_mem hmem) (i + 1)]
    rfl
  have hlength : (Analysis.ofLexemes ls).tokens.length = ls.length := List.length_mapIdx
  rw [Analysis.join, hlength, ← hsecond]
  rw [Analysis.ofLexemes, joinLexemes, List.mapIdx_append, List.mapIdx_cons, ← joinLexemes, hfirst,
    Nat.zero_add]
  rfl

/-- **Behind a newline, lexemes of other names lead to the joined analysis.** -/
theorem Analysis.ofLexemes_joinLexemes
    (hidentifiers : (symbolNames .identifier ls).Disjoint (symbolNames .identifier ks))
    (hlabels : (symbolNames .label ls).Disjoint (symbolNames .label ks)) :
    ofLexemes (joinLexemes table k ls ks) = (ofLexemes ls).join table k (.ofLexemes ks) := by
  rw [Analysis.mk.injEq]
  exact ⟨tokens_joinLexemes table k hidentifiers hlabels,
    identifiers_joinLexemes table k ls ks hidentifiers, constants_joinLexemes table k ls ks,
    labels_joinLexemes table k ls ks hlabels⟩

end

theorem forall_name_ne_iff {α : Type} [Symbol α] {make make' : String → Nat → α}
    (hname : ∀ name index, Symbol.name (make name index) = name)
    (hname' : ∀ name index, Symbol.name (make' name index) = name) {names others : List String} :
    (∀ i ∈ symbolsOf make names, ∀ j ∈ symbolsOf make' others, Symbol.name i ≠ Symbol.name j) ↔
      names.Disjoint others := by
  have hmem {make : String → Nat → α} (hname : ∀ name index, Symbol.name (make name index) = name)
      {names : List String} {p : String → Prop} :
      (∀ i ∈ symbolsOf make names, p (Symbol.name i)) ↔ ∀ name ∈ names, p name := by
    rw [← List.forall_mem_map, names_symbolsOf hname]
    simp only [List.mem_eraseDups]
  rw [hmem hname (p := fun name => ∀ j ∈ symbolsOf make' others, name ≠ Symbol.name j),
    List.disjoint_iff_ne]
  exact forall₂_congr fun name _ => hmem hname'

theorem Analysis.apart_ofLexemes_iff {ls ks : List Lexeme} :
    (ofLexemes ls).Apart (ofLexemes ks) ↔
      (symbolNames .identifier ls).Disjoint (symbolNames .identifier ks) ∧
        (symbolNames .label ls).Disjoint (symbolNames .label ks) :=
  and_congr (forall_name_ne_iff (fun _ _ => rfl) fun _ _ => rfl)
    (forall_name_ne_iff (fun _ _ => rfl) fun _ _ => rfl)

/-! ## Lines -/

theorem exists_line_eq_of_firstLine? {p : List Lexeme → Lexeme → Bool} {ls : List Lexeme}
    {n : UInt32} (h : firstLine? (sightings p ls) = some n) : ∃ l ∈ ls, l.line = n := by
  obtain ⟨l, hl, hline⟩ := Option.map_eq_some_iff.1 h
  obtain ⟨before, hmem, -⟩ := mem_sightings.1 (List.mem_of_head? hl)
  exact ⟨l, map_snd_history ls ▸ List.mem_map_of_mem hmem, hline⟩

/-- All lines in an analysis are those of lexemes. -/
theorem Analysis.exists_line_eq_of_mem_lines {ls : List Lexeme} {n : UInt32}
    (h : n ∈ (ofLexemes ls).lines) : ∃ l ∈ ls, l.line = n := by
  rcases List.mem_append.1 h with h | h
  · obtain ⟨t, ht, rfl⟩ := List.mem_map.1 h
    obtain ⟨i, hi, rfl⟩ := List.mem_mapIdx.1 ht
    exact ⟨_, List.getElem_mem hi, rfl⟩
  · obtain ⟨label, hlabel, h⟩ := List.mem_flatMap.1 h
    obtain ⟨i, hi, rfl⟩ := List.mem_mapIdx.1 hlabel
    rcases List.mem_append.1 h with h | h
    · exact exists_line_eq_of_firstLine? (Option.mem_toList.1 h)
    · exact exists_line_eq_of_firstLine? (Option.mem_toList.1 h)

theorem toNat_line_le_lineCount {table : Spellings} {source : String}
    (hfit : lineCount source < 2 ^ 32) {l : Lexeme}
    (hl : l ∈ Piece.lexemes ((Lexer.ofSource source).pieces table)) :
    l.line.toNat ≤ lineCount source :=
  toNat_line?_le_lineCount hfit (Piece.mem_lexemes_iff.1 hl) (Option.mem_some_self _)

/-! ## Two sources -/

/-- The analysis of two accepted sources with a newline between them, whatever their lines. -/
theorem analyzeWith_join_eq_ok_iff {table : Spellings} {source other : String} {a b c : Analysis}
    (ha : analyzeWith table source = .ok a) (hb : analyzeWith table other = .ok b) :
    analyzeWith table (source ++ "\n" ++ other) = .ok c ↔
      a.Apart b ∧ c = a.join table (.ofNat (lineCount source)) b := by
  obtain ⟨hclean, hflawless, rfl⟩ := analyzeWith_eq_ok_iff.1 ha
  obtain ⟨hclean', hflawless', rfl⟩ := analyzeWith_eq_ok_iff.1 hb
  rw [analyzeWith_eq_ok_iff, and_iff_right (rejected_not_mem_join hclean hclean'), lexemes_join,
    flawless_joinLexemes_iff hflawless hflawless', Analysis.apart_ofLexemes_iff]
  refine and_congr_right fun ⟨hidentifiers, hlabels⟩ => ?_
  rw [Analysis.ofLexemes_joinLexemes table _ hidentifiers hlabels]

/-- **Programs compose exactly if they share no names**: their analyses join, and the second one is
counted on behind the first one. -/
theorem analyzeWith_join {table : Spellings} {source other : String} {a b : Analysis}
    (ha : analyzeWith table source = .ok a) (hb : analyzeWith table other = .ok b)
    (hfit : (source ++ "\n" ++ other).toList.count '\n' ≤ 2 ^ 32 - 2) :
    ((∃ c, analyzeWith table (source ++ "\n" ++ other) = .ok c) ↔ a.Apart b) ∧
      (∀ c, analyzeWith table (source ++ "\n" ++ other) = .ok c →
        c = a.join table (.ofNat (lineCount source)) b) ∧
      (UInt32.ofNat (lineCount source)).toNat = lineCount source ∧
      ∀ n ∈ b.lines, (n + .ofNat (lineCount source)).toNat = n.toNat + lineCount source := by
  have hcount : lineCount source + lineCount other < 2 ^ 32 := by
    have hlist : (source ++ "\n" ++ other).toList = source.toList ++ '\n' :: other.toList := by simp
    rw [hlist, List.count_append, List.count_cons_self] at hfit
    rw [lineCount, lineCount]
    omega
  have hline : (UInt32.ofNat (lineCount source)).toNat = lineCount source := by
    rw [UInt32.toNat_ofNat', Nat.mod_eq_of_lt (by omega)]
  refine ⟨?_, fun c hc => ((analyzeWith_join_eq_ok_iff ha hb).1 hc).2, hline, fun n hn => ?_⟩
  · simp only [analyzeWith_join_eq_ok_iff ha hb, exists_and_left, exists_eq, and_true]
  · obtain ⟨-, -, rfl⟩ := analyzeWith_eq_ok_iff.1 hb
    obtain ⟨l, hl, rfl⟩ := Analysis.exists_line_eq_of_mem_lines hn
    have hle := toNat_line_le_lineCount (by omega) hl
    rw [UInt32.toNat_add, hline, Nat.mod_eq_of_lt (by omega)]

/-- Programs that share a constant, and programs that share an identifier. -/
theorem analyzeWith_join_of_shared_constant :
    ∃ a b, analyzeWith .standard "int x 1" = .ok a ∧
      analyzeWith .standard "M: int y 1 2\ngoto M" = .ok b ∧ a.Apart b ∧
      a.join .standard (.ofNat (lineCount "int x 1")) b =
        ⟨[⟨⟨1, "int", .spelling 13⟩, 1, none⟩, ⟨⟨1, "x", .identifier⟩, 2, some 1⟩,
            ⟨⟨1, "1", .constant⟩, 3, some 1⟩, ⟨⟨1, "¶", .spelling 31⟩, 4, none⟩,
            ⟨⟨2, "M:", .label⟩, 5, some 1⟩, ⟨⟨2, "int", .spelling 13⟩, 6, none⟩,
            ⟨⟨2, "y", .identifier⟩, 7, some 2⟩, ⟨⟨2, "1", .constant⟩, 8, some 1⟩,
            ⟨⟨2, "2", .constant⟩, 9, some 2⟩, ⟨⟨2, "¶", .spelling 31⟩, 10, none⟩,
            ⟨⟨3, "goto", .spelling 25⟩, 11, none⟩, ⟨⟨3, "M", .label⟩, 12, some 1⟩],
          [⟨"x", 1, "int"⟩, ⟨"y", 2, "int"⟩], [⟨"1", 1⟩, ⟨"2", 2⟩],
          [⟨"M", 1, some 3, some 2⟩]⟩ ∧
      analyzeWith .standard ("int x 1" ++ "\n" ++ "M: int y 1 2\ngoto M") =
        .ok (a.join .standard (.ofNat (lineCount "int x 1")) b) ∧
      ¬a.Apart a ∧ ∀ c, analyzeWith .standard ("int x 1" ++ "\n" ++ "int x 1") ≠ .ok c := by
  have ha : analyzeWith .standard "int x 1" = .ok
      ⟨[⟨⟨1, "int", .spelling 13⟩, 1, none⟩, ⟨⟨1, "x", .identifier⟩, 2, some 1⟩,
          ⟨⟨1, "1", .constant⟩, 3, some 1⟩],
        [⟨"x", 1, "int"⟩], [⟨"1", 1⟩], []⟩ := by cbv
  have hb : analyzeWith .standard "M: int y 1 2\ngoto M" = .ok
      ⟨[⟨⟨1, "M:", .label⟩, 1, some 1⟩, ⟨⟨1, "int", .spelling 13⟩, 2, none⟩,
          ⟨⟨1, "y", .identifier⟩, 3, some 1⟩, ⟨⟨1, "1", .constant⟩, 4, some 1⟩,
          ⟨⟨1, "2", .constant⟩, 5, some 2⟩, ⟨⟨1, "¶", .spelling 31⟩, 6, none⟩,
          ⟨⟨2, "goto", .spelling 25⟩, 7, none⟩, ⟨⟨2, "M", .label⟩, 8, some 1⟩],
        [⟨"y", 1, "int"⟩], [⟨"1", 1⟩, ⟨"2", 2⟩], [⟨"M", 1, some 2, some 1⟩]⟩ := by cbv
  obtain ⟨hiff, hjoin, -, -⟩ := analyzeWith_join ha hb (by decide)
  obtain ⟨c, hc⟩ := hiff.2 (by decide)
  obtain rfl := hjoin c hc
  refine ⟨_, _, ha, hb, by decide, by cbv, hc, by decide, fun c hc => ?_⟩
  exact absurd ((analyzeWith_join ha ha (by decide)).1.1 ⟨c, hc⟩) (by decide)

end Lexis
