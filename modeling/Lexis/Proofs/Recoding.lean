import Lexis.Proofs.Correspondence

/-!
# Spelling tables with the same words

Of a spelling table only the words matter. The codes that it gives, and the operators and the
newline that it has or lacks, show in the kinds of the lexemes that are keyed by the table and
nowhere else.

* `Spellings.SameWords`: two tables have the same words as keys;
* `Kind.uncoded`, `Analysis.uncoded`: all that is left if codes are taken away;
* `Lexeme.recode`, `Lexeme.Spelled.matches_recode`: the lexeme under another table;
* **`analyzeWith_uncoded_eq`**: the outcomes for a source under two such tables.
-/

namespace Lexis

open Alphabet

/-- The tables have the same words as keys. -/
def Spellings.SameWords (table table' : Spellings) : Prop :=
  ∀ w, IsWord w → table.contains (.ofList w) = table'.contains (.ofList w)

/-- The kind, in which all that are keyed by a table are alike. -/
def Kind.uncoded : Kind → Kind
  | .spelling _ | .unmapped => .unmapped
  | .identifier => .identifier
  | .constant => .constant
  | .label => .label

/-- The analysis without codes. -/
def Analysis.uncoded (a : Analysis) : Analysis :=
  { a with tokens := a.tokens.map fun t => { t with kind := t.kind.uncoded } }

/-- The lexeme under another table. -/
def Lexeme.recode (table : Spellings) (l : Lexeme) : Lexeme :=
  if l.kind.isSymbolic then l
  else if l.isNewline then { l with kind := .spelling table.newlineCode }
  else { l with kind := Lexer.operatorKind table l.text }

/-! ## Kinds without codes -/

theorem Spellings.SameWords.contains_of_code? {table table' : Spellings}
    (h : table.SameWords table') {w : List Char} (hw : IsWord w) {code : Nat}
    (hcode : table.code? (.ofList w) = some code) : table'.contains (.ofList w) = true := by
  rw [← h w hw, contains, hcode]
  rfl

theorem IsWord.ofList_ne {w : List Char} (hw : IsWord w) {spelling : String}
    (h : ¬IsWord spelling.toList) : String.ofList w ≠ spelling := by
  rintro rfl
  rw [String.toList_ofList] at h
  exact h hw

theorem Kind.uncoded_of_not_isSymbolic {kind : Kind} (h : kind.isSymbolic = false) :
    kind.uncoded = .unmapped := by
  cases kind with
  | spelling _ | unmapped => rfl
  | _ => cases h

namespace Lexeme

variable {l : Lexeme} {table table' : Spellings}

theorem recode_of_isSymbolic (h : l.kind.isSymbolic = true) : l.recode table = l := if_pos h

theorem recode_of_not_isSymbolic (h : l.kind.isSymbolic = false) (hnewline : l.isNewline = false) :
    l.recode table = { l with kind := Lexer.operatorKind table l.text } := by
  rw [recode, if_neg (by simp [h]), if_neg (by simp [hnewline])]

theorem uncoded_recode (l : Lexeme) (table : Spellings) :
    { l.recode table with kind := (l.recode table).kind.uncoded } =
      { l with kind := l.kind.uncoded } := by
  rw [recode]
  cases hkind : l.kind.isSymbolic with
  | true => rfl
  | false =>
    rw [if_neg (by simp), Kind.uncoded_of_not_isSymbolic hkind]
    split_ifs
    · rfl
    · rw [Kind.uncoded_of_not_isSymbolic (Lexer.isSymbolic_operatorKind ..)]

theorem isTypeKeyword_of_operator {text : List Char} (htext : ∀ c ∈ text, c.isAlphanum = false)
    (h : l.text = .ofList text) : l.isTypeKeyword = false := by
  have hne : text ≠ "int".toList := by
    rintro rfl
    exact absurd (htext 'i' (by simp)) (by decide)
  have hspelling : Lexis.isTypeKeyword l.text = false := by
    rw [Lexis.isTypeKeyword, typeKeywords, h, List.contains_cons]
    simpa [← String.toList_inj] using hne
  rw [isTypeKeyword, hspelling, Bool.and_false]

/-- **Under a table with the same words a lexeme answers as before.** -/
theorem Spelled.matches_recode (h : l.Spelled table) (hwords : table.SameWords table') :
    l.Matches id (l.recode table') := by
  cases h with
  | @keyword line w code hw hcode =>
    rw [recode_of_not_isSymbolic rfl (isNewline_of_isLexical (isLexical_of_isWord hw) rfl)]
    apply matches_of_not_isSymbolic rfl (Lexer.isSymbolic_operatorKind ..)
    have hkey := hwords.contains_of_code? hw hcode
    simp only [isTypeKeyword, Lexer.isSpelling_operatorKind, hkey]
    rfl
  | @operator line text hne htext =>
    have hkind := Lexer.isSymbolic_operatorKind table (.ofList text)
    rw [recode_of_not_isSymbolic hkind (isNewline_of_isLexical (fun c hc => (htext c hc).1) rfl)]
    apply matches_of_not_isSymbolic hkind (Lexer.isSymbolic_operatorKind ..)
    rw [isTypeKeyword_of_operator (fun c hc => (htext c hc).2) rfl,
      isTypeKeyword_of_operator (fun c hc => (htext c hc).2) rfl]
  | newline => exact matches_of_not_isSymbolic rfl rfl rfl
  | _ => exact matches_self fun _ => rfl

end Lexeme

/-! ## The lexer -/

namespace Lexer

variable {table table' : Spellings} {lx lx' : Lexer} {m : Munch} {rest : List Char}

theorem recode_wordKind (hwords : table.SameWords table') (h : InStep 0 lx lx') {w : List Char}
    (hw : IsWord w) (line : UInt32) :
    Lexeme.recode table' ⟨line, .ofList w, lx.wordKind table (.ofList w)⟩ =
      ⟨line, .ofList w, lx'.wordKind table' (.ofList w)⟩ := by
  rw [wordKind, wordKind, h.afterGoto]
  cases hcode : table.code? (.ofList w) with
  | some code =>
    obtain ⟨code', hcode'⟩ := Option.isSome_iff_exists.1 (hwords.contains_of_code? hw hcode)
    rw [Lexeme.recode_of_not_isSymbolic rfl
      (Lexeme.isNewline_of_isLexical (isLexical_of_isWord hw) rfl), hcode', operatorKind, hcode']
    rfl
  | none =>
    have hcode' : table'.code? (.ofList w) = none := by
      rw [Spellings.code?_eq_none_iff, ← hwords w hw, Spellings.code?_eq_none_iff.1 hcode]
    rw [hcode']
    cases lx.afterGoto <;> exact Lexeme.recode_of_isSymbolic rfl

theorem classify_recode (hwords : table.SameWords table') (h : InStep 0 lx lx')
    (hm : IsMunch lx.afterOperand m rest) :
    lx'.classify table' m = (lx.classify table m).recast (Lexeme.recode table') := by
  have hlexical := hm.forall_isLexical
  rcases m with ⟨shape, text⟩
  cases shape with
  | word =>
    have hw : IsWord text := hm.isWord_of_word rfl
    rw [classify, h.line_eq]
    exact congrArg Piece.lexeme (recode_wordKind hwords h hw _).symm
  | operator =>
    rw [classify, h.line_eq]
    apply congrArg Piece.lexeme
    rw [Lexeme.recode_of_not_isSymbolic (isSymbolic_operatorKind ..)
      (Lexeme.isNewline_of_isLexical (hlexical rfl) rfl)]
  | label | number | newline | rejected _ | blank =>
    rw [classify, h.line_eq]
    rfl

theorem translates_recode (hwords : table.SameWords table') :
    Translates 0 table table' id id (Piece.recast (Lexeme.recode table')) :=
  translates_of_matches rfl (fun hm => ⟨rfl, hm⟩) (fun _ => rfl) (classify_recode hwords)
    fun _ hl => hl.matches_recode hwords

end Lexer

theorem Analysis.uncoded_recast (a : Analysis) (table : Spellings) :
    (a.recast id (Lexeme.recode table)).uncoded = a.uncoded := by
  have htokens : (a.tokens.map fun t => { t with toLexeme := t.toLexeme.recode table }).map
      (fun t => { t with kind := t.kind.uncoded }) =
      a.tokens.map fun t => { t with kind := t.kind.uncoded } := by
    rw [List.map_map]
    apply List.map_congr_left
    intro t _
    exact congrArg (fun l => { t with toLexeme := l }) (t.toLexeme.uncoded_recode table)
  rw [uncoded, recast, htokens, uncoded]
  simp

/-- **Of a spelling table only the words can change what a source means**: its codes are told in
the kinds of tokens and nowhere else. -/
theorem analyzeWith_uncoded_eq {table table' : Spellings} (h : table.SameWords table')
    (source : String) :
    (analyzeWith table source).map Analysis.uncoded =
      (analyzeWith table' source).map Analysis.uncoded := by
  rw [(Lexer.translates_recode h).analyzeWith_eq Function.injective_id
    (fun _ hl => hl.matches_recode h) rfl]
  cases analyzeWith table source with
  | ok a => exact congrArg Except.ok (a.uncoded_recast table').symm
  | error diagnostics =>
    have hid : Diagnostic.rename id = id := funext Diagnostic.rename_id
    simp [Except.map, Except.mapError, hid]

/-- Tables that give their keywords other codes, and of which one lacks an operator and the newline. -/
theorem analyzeWith_uncoded_eq_of_bare_table :
    ∃ table table' a a', table.SameWords table' ∧
      analyzeWith table "goto L\nL: int x = -1" = .ok a ∧
      analyzeWith table' "goto L\nL: int x = -1" = .ok a' ∧
      a.tokens.map (fun t => t.kind.code?) =
        [some 25, some 102, some 31, some 102, some 13, some 100, some 1, some 101] ∧
      a'.tokens.map (fun t => t.kind.code?) =
        [some 0, some 102, some 0, some 102, some 7, some 100, none, some 101] ∧
      a.uncoded = a'.uncoded := by
  have hwords : (Spellings.ofList [("int", 13), ("goto", 25), ("=", 1), ("\n", 31)]).SameWords
      (.ofList [("goto", 0), ("^", 5), ("int", 7)]) := by
    intro w hw
    have hassign : String.ofList w ≠ "=" := hw.ofList_ne (by decide)
    have hnewline : String.ofList w ≠ "\n" := hw.ofList_ne (by decide)
    have hcaret : String.ofList w ≠ "^" := hw.ofList_ne (by decide)
    simp only [Spellings.contains, Spellings.ofList, List.foldl_cons, List.foldl_nil,
      Spellings.code?_insert, if_neg hassign, if_neg hnewline, if_neg hcaret]
    split_ifs <;> rfl
  have h : analyzeWith (.ofList [("int", 13), ("goto", 25), ("=", 1), ("\n", 31)])
      "goto L\nL: int x = -1" = .ok
      ⟨[⟨⟨1, "goto", .spelling 25⟩, 1, none⟩, ⟨⟨1, "L", .label⟩, 2, some 1⟩,
          ⟨⟨1, "¶", .spelling 31⟩, 3, none⟩, ⟨⟨2, "L:", .label⟩, 4, some 1⟩,
          ⟨⟨2, "int", .spelling 13⟩, 5, none⟩, ⟨⟨2, "x", .identifier⟩, 6, some 1⟩,
          ⟨⟨2, "=", .spelling 1⟩, 7, none⟩, ⟨⟨2, "-1", .constant⟩, 8, some 1⟩],
        [⟨"x", 1, "int"⟩], [⟨"-1", 1⟩], [⟨"L", 1, some 1, some 2⟩]⟩ := by cbv
  have h' : analyzeWith (.ofList [("goto", 0), ("^", 5), ("int", 7)])
      "goto L\nL: int x = -1" = .ok
      ⟨[⟨⟨1, "goto", .spelling 0⟩, 1, none⟩, ⟨⟨1, "L", .label⟩, 2, some 1⟩,
          ⟨⟨1, "¶", .spelling 0⟩, 3, none⟩, ⟨⟨2, "L:", .label⟩, 4, some 1⟩,
          ⟨⟨2, "int", .spelling 7⟩, 5, none⟩, ⟨⟨2, "x", .identifier⟩, 6, some 1⟩,
          ⟨⟨2, "=", .unmapped⟩, 7, none⟩, ⟨⟨2, "-1", .constant⟩, 8, some 1⟩],
        [⟨"x", 1, "int"⟩], [⟨"-1", 1⟩], [⟨"L", 1, some 1, some 2⟩]⟩ := by cbv
  have heq := analyzeWith_uncoded_eq hwords "goto L\nL: int x = -1"
  rw [h, h'] at heq
  exact ⟨_, _, _, _, hwords, h, h', rfl, rfl, Except.ok.inj heq⟩

end Lexis
