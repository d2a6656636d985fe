import Lexis.Proofs.Acceptance
import Lexis.Proofs.Layout
import Lexis.Proofs.Lockstep

/-!
# Two sources with a newline between them

A newline ends every piece, and behind it the lexer remembers nothing but the number of the line.
So the pieces of two sources with a newline between them are those of the first source, the newline,
and those of the second source further down. Nor does a fault depend on what lies before the
newline, but for the names that were met there.

* `IsMunch.append_newline`: a longest piece stays one if a newline and more is put behind the text;
* `Lexer.pieces_append_newline`: the lexer comes to this newline behind the pieces of the text;
* `newlineLexeme`, `Lexer.pieces_behind_newline`: it finds the newline and goes on as a new one;
* `lineCount`, **`pieces_join`**: the pieces of the two sources;
* `joinLexemes`, with `history_joinLexemes` and what each question about lexemes answers there;
* **`flawless_joinLexemes_iff`**: if neither source has faults, both have none if and only if they
  share no names.
-/

namespace Lexis

theorem IsMunch.append_newline {afterOperand : Bool} {m : Munch} {rest : List Char}
    (h : IsMunch afterOperand m rest) (more : List Char) :
    IsMunch afterOperand m (rest ++ '\n' :: more) := by
  refine h.of_head? fun c hc hlexical => ?_
  cases rest with
  | nil =>
    obtain rfl : '\n' = c := by simpa using hc
    exact absurd hlexical (by decide)
  | cons d cs => exact hc

/-- A newline as the lexer finds it on that line. -/
def newlineLexeme (table : Spellings) (line : UInt32) : Lexeme :=
  ⟨line, newlineText, .spelling table.newlineCode⟩

namespace Lexer

/-- **A newline behind a text does not change the pieces of the text.** The lexer comes to it on the
line that the text ends on. -/
theorem pieces_append_newline (table : Spellings) {lx lx' : Lexer} (h : InStep 0 lx lx')
    {more : List Char} (hrest : lx'.cursor.rest = lx.cursor.rest ++ '\n' :: more) :
    ∃ last : Lexer, last.cursor.rest = '\n' :: more ∧
      last.cursor.line = lx.cursor.line + UInt32.ofNat (lx.cursor.rest.count '\n') ∧
      lx'.pieces table = lx.pieces table ++ last.pieces table := by
  induction lx using munch_induction table generalizing lx' with
  | done lx hnil =>
    refine ⟨lx', by rw [hrest, hnil, List.nil_append], ?_, ?_⟩
    · rw [h.line, hnil]
      rfl
    · rw [pieces_of_rest_eq_nil hnil, List.nil_append]
  | step lx m rest hm hcut ih =>
    have hm' := hm.append_newline more
    have hcut' : lx'.cursor.rest = m.text ++ (rest ++ '\n' :: more) := by
      rw [hrest, hcut, List.append_assoc]
    rw [← h.afterOperand] at hm'
    obtain ⟨last, hlast, hline, hpieces⟩ :=
      ih (h.pass table m) (by rw [rest_pass hcut', rest_pass hcut])
    refine ⟨last, hlast, ?_, ?_⟩
    · rw [hline, hm.line_pass, rest_pass hcut, hcut, List.count_append, UInt32.ofNat_add,
        UInt32.add_assoc]
    · rw [pieces_of_isMunch hm hcut, pieces_of_isMunch hm' hcut', h.classify, Piece.shift_zero,
        hpieces, List.cons_append]

/-- Behind a newline the lexer goes on as a new one, but on its line. -/
theorem pieces_behind_newline (table : Spellings) {lx : Lexer} {source : String}
    (hrest : lx.cursor.rest = '\n' :: source.toList) :
    lx.pieces table = .lexeme (newlineLexeme table lx.cursor.line) ::
      ((ofSource source).pieces table).map (Piece.shift lx.cursor.line) := by
  have hm : IsMunch lx.afterOperand ⟨.newline, ['\n']⟩ source.toList := .newline
  have hstep : InStep lx.cursor.line (ofSource source) (lx.pass table ⟨.newline, ['\n']⟩) := by
    refine ⟨rfl, ?_, ?_⟩
    · rw [afterGoto_pass]
      rfl
    · rw [Lexer.line_pass, if_pos rfl, UInt32.add_comm]
      rfl
  rw [pieces_of_isMunch hm hrest, hstep.pieces_eq table (rest_pass hrest)]
  rfl

end Lexer

/-- The number of lines of the source. The last one may be empty. -/
def lineCount (source : String) : Nat := source.toList.count '\n' + 1

/-- **The pieces of two sources with a newline between them.** -/
theorem pieces_join (table : Spellings) (source other : String) :
    (Lexer.ofSource (source ++ "\n" ++ other)).pieces table =
      (Lexer.ofSource source).pieces table ++
        .lexeme (newlineLexeme table (.ofNat (lineCount source))) ::
          ((Lexer.ofSource other).pieces table).map
            (Piece.shift (.ofNat (lineCount source))) := by
  have hstep := Lexer.InStep.ofSource source (source ++ "\n" ++ other)
  have hrest : (source ++ "\n" ++ other).toList = source.toList ++ '\n' :: other.toList := by simp
  obtain ⟨last, hlast, hline, hpieces⟩ := Lexer.pieces_append_newline table hstep hrest
  have hcount : last.cursor.line = .ofNat (lineCount source) := by
    rw [hline, lineCount, Nat.add_comm, UInt32.ofNat_add]
    rfl
  rw [hpieces, Lexer.pieces_behind_newline table hlast, hcount]

/-- The newline that ends a source is a piece of its own. -/
theorem pieces_line (table : Spellings) (source : String) :
    (Lexer.ofSource (source ++ "\n")).pieces table =
      (Lexer.ofSource source).pieces table ++
        [.lexeme (newlineLexeme table (.ofNat (lineCount source)))] := by
  have hnil : (Lexer.ofSource "").pieces table = [] := Lexer.pieces_of_rest_eq_nil rfl
  have hjoin := pieces_join table source ""
  rwa [String.append_empty, hnil] at hjoin

theorem lineCount_join (source other : String) :
    lineCount (source ++ "\n" ++ other) = lineCount source + lineCount other := by
  have hlist : (source ++ "\n" ++ other).toList = source.toList ++ '\n' :: other.toList := by simp
  rw [lineCount, hlist, List.count_append, List.count_cons_self, lineCount, lineCount]
  omega

/-- The pieces of a source lie on its lines. -/
theorem toNat_line?_le_lineCount {table : Spellings} {source : String}
    (hfit : lineCount source < 2 ^ 32) {p : Piece} (hp : p ∈ (Lexer.ofSource source).pieces table)
    {n : UInt32} (hn : n ∈ p.line?) : n.toNat ≤ lineCount source := by
  have hlayout := layout_pieces table (Lexer.ofSource source)
  have hline := (hlayout.line?_bounds (by rwa [Nat.add_comm]) p hp n hn).2
  rwa [Nat.add_comm] at hline

theorem rejected_not_mem_join {table : Spellings} {source other : String}
    (h : ∀ d, .rejected d ∉ (Lexer.ofSource source).pieces table)
    (h' : ∀ d, .rejected d ∉ (Lexer.ofSource other).pieces table) (d : Diagnostic) :
    .rejected d ∉ (Lexer.ofSource (source ++ "\n" ++ other)).pieces table := by
  rw [pieces_join, List.mem_append, List.mem_cons, List.mem_map]
  rintro (hd | hd | ⟨p, hp, hd⟩)
  · exact h d hd
  · cases hd
  · cases p with
    | rejected e => exact h' e hp
    | _ => cases hd

/-! ## Lexemes behind a newline -/

/-- The lexemes of two sources with a newline on line `k` between them. -/
def joinLexemes (table : Spellings) (k : UInt32) (ls ks : List Lexeme) : List Lexeme :=
  ls ++ newlineLexeme table k :: ks.map (Lexeme.shift k)

theorem lexemes_join (table : Spellings) (source other : String) :
    Piece.lexemes ((Lexer.ofSource (source ++ "\n" ++ other)).pieces table) =
      joinLexemes table (.ofNat (lineCount source))
        (Piece.lexemes ((Lexer.ofSource source).pieces table))
        (Piece.lexemes ((Lexer.ofSource other).pieces table)) := by
  rw [pieces_join, Piece.lexemes_append, Piece.lexemes_lexeme_cons, Piece.lexemes_map_shift]
  rfl

section

variable (table : Spellings) (k : UInt32) (ls : List Lexeme)

theorem joinLexemes_nil : joinLexemes table k ls [] = ls ++ [newlineLexeme table k] := rfl

theorem joinLexemes_append_singleton (ks : List Lexeme) (l : Lexeme) :
    joinLexemes table k ls (ks ++ [l]) = joinLexemes table k ls ks ++ [l.shift k] := by
  simp [joinLexemes]

theorem history_joinLexemes (ks : List Lexeme) :
    history (joinLexemes table k ls ks) = history ls ++ (ls, newlineLexeme table k) ::
      (history ks).map fun x => (joinLexemes table k ls x.1, x.2.shift k) := by
  induction ks using List.reverseRecOn with
  | nil => rw [joinLexemes_nil, history_append_singleton]; rfl
  | append_singleton ks l ih =>
    rw [joinLexemes_append_singleton, history_append_singleton, history_append_singleton, ih]
    simp

/-- The line that goes on is one of the second source. -/
theorem firstOnLine?_joinLexemes (ks : List Lexeme) :
    firstOnLine? (joinLexemes table k ls ks) = (firstOnLine? ks).map (Lexeme.shift k) := by
  induction ks using List.reverseRecOn with
  | nil =>
    rw [joinLexemes_nil, firstOnLine?_append_singleton, if_pos (by rfl)]
    rfl
  | append_singleton ks l ih =>
    rw [joinLexemes_append_singleton, firstOnLine?_append_singleton, firstOnLine?_append_singleton,
      ih, Lexeme.isNewline_shift, Lexeme.kind_shift]
    by_cases hnewline : l.isNewline = true
    · rw [if_pos hnewline, if_pos hnewline]
      rfl
    · rw [if_neg hnewline, if_neg hnewline]
      cases firstOnLine? ks with
      | some _ => rfl
      | none => by_cases hkind : l.kind = .label <;> simp [hkind]

theorem rescannedType?_joinLexemes (ks : List Lexeme) :
    rescannedType? (joinLexemes table k ls ks) = rescannedType? ks := by
  rw [rescannedType?, firstOnLine?_joinLexemes, rescannedType?]
  cases firstOnLine? ks with
  | none => rfl
  | some l => by_cases h : l.isTypeKeyword = true <;> simp [Option.filter, h]

theorem endsInGoto_joinLexemes (ks : List Lexeme) :
    endsInGoto (joinLexemes table k ls ks) = endsInGoto ks := by
  induction ks using List.reverseRecOn with
  | nil => rw [joinLexemes_nil, endsInGoto, List.getLast?_concat]; rfl
  | append_singleton ks l =>
    rw [joinLexemes_append_singleton, endsInGoto, endsInGoto, List.getLast?_concat,
      List.getLast?_concat]
    rfl

theorem symbolNames_joinLexemes {kind : Kind} (hkind : kind.isSymbolic = true) (ks : List Lexeme) :
    symbolNames kind (joinLexemes table k ls ks) = symbolNames kind ls ++ symbolNames kind ks := by
  have hne : (newlineLexeme table k).kind ≠ kind := by
    rintro rfl
    cases hkind
  rw [joinLexemes, symbolNames_append]
  congr 1
  rw [symbolNames, List.filter_cons_of_neg (by simpa using hne), List.filter_map, List.map_map]
  rfl

theorem firstSighting?_joinLexemes (ks : List Lexeme) (name : String) :
    firstSighting? name (joinLexemes table k ls ks) =
      (firstSighting? name ls).or ((firstSighting? name ks).map fun x =>
        (joinLexemes table k ls x.1, x.2.shift k)) := by
  have hnewline : (newlineLexeme table k).isIdentifierOf name = false := rfl
  rw [firstSighting?, history_joinLexemes, List.find?_append,
    List.find?_cons_of_neg (by simp [hnewline]), List.find?_map]
  rfl

/-- What a property of lexemes sees in two sources, if it cannot see the first source through the
newline. -/
theorem sightings_joinLexemes {p : List Lexeme → Lexeme → Bool} (ks : List Lexeme)
    (hnewline : p ls (newlineLexeme table k) = false)
    (hp : ∀ before l, p (joinLexemes table k ls before) (l.shift k) = p before l) :
    sightings p (joinLexemes table k ls ks) =
      sightings p ls ++ (sightings p ks).map (Lexeme.shift k) := by
  rw [sightings, history_joinLexemes, List.filter_append, List.map_append,
    List.filter_cons_of_neg (by simpa using hnewline), List.filter_map, List.map_map]
  simp only [Function.comp_def, hp, sightings, List.map_map]

theorem references_joinLexemes (ks : List Lexeme) (name : String) :
    references name (joinLexemes table k ls ks) =
      references name ls ++ (references name ks).map (Lexeme.shift k) := by
  refine sightings_joinLexemes table k ls ks rfl fun before l => ?_
  rw [endsInGoto_joinLexemes]
  rfl

theorem declarations_joinLexemes (ks : List Lexeme) (name : String) :
    declarations name (joinLexemes table k ls ks) =
      declarations name ls ++ (declarations name ks).map (Lexeme.shift k) := by
  refine sightings_joinLexemes table k ls ks rfl fun before l => ?_
  rw [endsInGoto_joinLexemes]
  rfl

end

/-! ## Faults behind a newline -/

section

variable {table : Spellings} {k : UInt32} {ls ks before : List Lexeme} {l : Lexeme}

/-- A new name is at fault as it would be without the first source. -/
theorem variableFault?_joinLexemes
    (h : l.kind = .identifier → l.symbolName ∉ symbolNames .identifier ls) :
    variableFault? (joinLexemes table k ls before) (l.shift k) = variableFault? before l := by
  rw [variableFault?, variableFault?, rescannedType?_joinLexemes, Lexeme.kind_shift,
    Lexeme.text_shift]
  by_cases hkind : l.kind = .identifier
  · have hname := h hkind
    rw [Lexeme.symbolName_of_ne_label (by simp [hkind])] at hname
    have hany : (joinLexemes table k ls before).any (Lexeme.isIdentifierOf l.text) =
        before.any (Lexeme.isIdentifierOf l.text) := by
      rw [Bool.eq_iff_iff, any_isIdentifierOf_iff, any_isIdentifierOf_iff,
        symbolNames_joinLexemes table k ls rfl, List.mem_append, or_iff_right hname]
    rw [hany]
  · rw [if_neg hkind, if_neg hkind]

theorem references_eq_nil {name : String} (h : name ∉ symbolNames .label ls) :
    references name ls = [] := by
  refine sightings_eq_nil fun l hl _ => ?_
  rw [← any_isLabelOf_iff, Bool.not_eq_true, List.any_eq_false] at h
  simpa using fun hlabel => absurd hlabel (h l hl)

theorem declarations_eq_nil {name : String} (h : name ∉ symbolNames .label ls) :
    declarations name ls = [] := by
  refine sightings_eq_nil fun l hl _ => ?_
  rw [← any_isLabelOf_iff, Bool.not_eq_true, List.any_eq_false] at h
  simpa using fun hlabel => absurd hlabel (h l hl)

/-- A new label is at fault as it would be without the first source. -/
theorem labelFault?_joinLexemes (h : l.kind = .label → l.symbolName ∉ symbolNames .label ls) :
    labelFault? (joinLexemes table k ls before) (l.shift k) = labelFault? before l := by
  rw [labelFault?, labelFault?, endsInGoto_joinLexemes, Lexeme.kind_shift, Lexeme.labelName_shift,
    references_joinLexemes, declarations_joinLexemes]
  by_cases hkind : l.kind = .label
  · have hname := h hkind
    rw [Lexeme.symbolName_of_label hkind] at hname
    rw [references_eq_nil hname, declarations_eq_nil hname]
    simp
  · rw [if_neg hkind, if_neg hkind]

theorem mem_history_joinLexemes {x : List Lexeme × Lexeme} (hx : x ∈ history ks) :
    (joinLexemes table k ls x.1, x.2.shift k) ∈ history (joinLexemes table k ls ks) := by
  rw [history_joinLexemes]
  exact List.mem_append_right _ (List.mem_cons_of_mem _ (List.mem_map_of_mem hx))

/-- An identifier of both sources is declared again behind the newline. -/
theorem disjoint_identifiers (hks : Flawless ks) (h : Flawless (joinLexemes table k ls ks)) :
    (symbolNames .identifier ls).Disjoint (symbolNames .identifier ks) := by
  intro name hname hname'
  rw [← any_isIdentifierOf_iff] at hname hname'
  rw [← isSome_firstSighting?, Option.isSome_iff_exists] at hname'
  obtain ⟨⟨before, l⟩, hfirst⟩ := hname'
  have hmem := List.mem_of_find?_eq_some hfirst
  have hdeclares : (rescannedType? before).isSome = true := hks.isSome_rescannedType? hfirst
  obtain ⟨hkind, rfl⟩ : l.kind = .identifier ∧ l.text = name := by
    simpa [Lexeme.isIdentifierOf] using List.find?_some hfirst
  have hany : (joinLexemes table k ls before).any (Lexeme.isIdentifierOf l.text) = true := by
    rw [joinLexemes, List.any_append, hname, Bool.true_or]
  have hfault : variableFault? (joinLexemes table k ls before) (l.shift k) = none :=
    h.identifiers _ (mem_history_joinLexemes hmem)
  rw [variableFault?, rescannedType?_joinLexemes, Lexeme.kind_shift, Lexeme.text_shift,
    if_pos hkind, if_pos hany, if_pos hdeclares] at hfault
  cases hfault

/-- A label of both sources is declared again behind the newline. -/
theorem disjoint_labels (hls : Flawless ls) (hks : Flawless ks)
    (h : Flawless (joinLexemes table k ls ks)) :
    (symbolNames .label ls).Disjoint (symbolNames .label ks) := by
  have hdeclared {js : List Lexeme} {name : String} (hjs : Flawless js)
      (hname : name ∈ symbolNames .label js) : declarations name js ≠ [] := by
    obtain ⟨l, hl, hlabel⟩ := List.any_eq_true.1 (any_isLabelOf_iff.2 hname)
    obtain ⟨hkind, rfl⟩ : l.kind = .label ∧ l.labelName = name := by
      simpa [Lexeme.isLabelOf] using hlabel
    exact hjs.declared l hl hkind
  intro name hname hname'
  obtain ⟨l, hl⟩ := List.exists_mem_of_ne_nil _ (hdeclared hks hname')
  obtain ⟨before, hmem, hp⟩ := mem_sightings.1 hl
  obtain ⟨⟨hkind, rfl⟩, hgoto⟩ :
      (l.kind = .label ∧ l.labelName = name) ∧ endsInGoto before = false := by
    simpa [Lexeme.isLabelOf] using hp
  have hfault := h.labels _ (mem_history_joinLexemes hmem)
  simp [labelFault?, hkind, endsInGoto_joinLexemes, hgoto, declarations_joinLexemes,
    hdeclared hls hname] at hfault

/-- **Lexemes without faults, put behind others with a newline between them, get none if and only if
they name no identifier and no label of those.** -/
theorem flawless_joinLexemes_iff (hls : Flawless ls) (hks : Flawless ks) :
    Flawless (joinLexemes table k ls ks) ↔
      (symbolNames .identifier ls).Disjoint (symbolNames .identifier ks) ∧
        (symbolNames .label ls).Disjoint (symbolNames .label ks) := by
  refine ⟨fun h => ⟨disjoint_identifiers hks h, disjoint_labels hls hks h⟩, ?_⟩
  rintro ⟨hidentifiers, hlabels⟩
  have hnew {kind : Kind} (hdisjoint : (symbolNames kind ls).Disjoint (symbolNames kind ks))
      {x : List Lexeme × Lexeme} (hx : x ∈ history ks) (hkind : x.2.kind = kind) :
      x.2.symbolName ∉ symbolNames kind ls := by
    have hmem : x.2 ∈ ks := map_snd_history ks ▸ List.mem_map_of_mem hx
    exact fun hname => hdisjoint hname (hkind ▸ symbolName_mem_symbolNames hmem)
  constructor
  · rw [history_joinLexemes, List.forall_mem_append, List.forall_mem_cons, List.forall_mem_map]
    refine ⟨hls.identifiers, rfl, fun x hx => ?_⟩
    rw [variableFault?_joinLexemes (hnew hidentifiers hx), hks.identifiers x hx]
  · rw [history_joinLexemes, List.forall_mem_append, List.forall_mem_cons, List.forall_mem_map]
    refine ⟨hls.labels, rfl, fun x hx => ?_⟩
    rw [labelFault?_joinLexemes (hnew hlabels hx), hks.labels x hx]
  · rw [joinLexemes, List.forall_mem_append, List.forall_mem_cons, List.forall_mem_map,
      ← joinLexemes]
    refine ⟨fun l hl hkind hnil => ?_, (nomatch ·), fun l hl hkind hnil => ?_⟩
    · rw [declarations_joinLexemes, List.append_eq_nil_iff] at hnil
      exact hls.declared l hl hkind hnil.1
    · rw [declarations_joinLexemes, List.append_eq_nil_iff, List.map_eq_nil_iff] at hnil
      exact hks.declared l hl hkind hnil.2

end

end Lexis
