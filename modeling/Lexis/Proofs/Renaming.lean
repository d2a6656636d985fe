import Lexis.Proofs.Correspondence

/-!
# Renaming the words of a source

The names in a source do not matter, as long as distinct ones stay distinct and the keywords stay
what they are: the outcome for a source whose words are renamed is the outcome for the source, with
the names in it renamed.

* `Renaming`: a change of words that keeps them distinct and keeps the keys of a table;
* `Renaming.name`, `Renaming.text`: a name and a source under their new names;
* `Renaming.lexeme`, `Renaming.outcome`: a lexeme and an outcome under new names;
* `Renaming.isMunch_textList`, `Renaming.translates`: the pieces of a renamed source;
* **`analyze_renamed`**: the outcome for a renamed source.
-/

namespace Lexis

open Alphabet

/-- The words of sources. -/
abbrev Word := {w : List Char // IsWord w}

/-- New words for words. Distinct ones stay distinct, and the keys of the table stay as they are. -/
structure Renaming (table : Spellings) where
  word : Word → Word
  injective : word.Injective
  fixes : ∀ w : Word, table.contains (.ofList w.1) = true → word w = w

namespace Renaming

variable {table : Spellings}

/-- Two words that change their places. -/
def swap (v w : Word) (hv : table.contains (.ofList v.1) = false)
    (hw : table.contains (.ofList w.1) = false) : Renaming table where
  word := Equiv.swap v w
  injective := (Equiv.swap v w).injective
  fixes u hu := by
    apply Equiv.swap_apply_of_ne_of_ne
    · rintro rfl
      exact absurd (hv.symm.trans hu) Bool.false_ne_true
    · rintro rfl
      exact absurd (hw.symm.trans hu) Bool.false_ne_true

variable (r : Renaming table)

/-- The new word for a word. What is no word stays as it is. -/
def nameList (w : List Char) : List Char := if hw : IsWord w then (r.word ⟨w, hw⟩).1 else w

/-- The new name for a name. -/
def name (name : String) : String := .ofList (r.nameList name.toList)

/-- The text with new words in it. A word goes from a letter to the end of the run of letters and
digits that the letter stands in. -/
def textList : List Char → List Char
  | [] => []
  | c :: cs =>
    if c.isAlpha then
      r.nameList (c :: cs.takeWhile Char.isAlphanum) ++ textList (cs.dropWhile Char.isAlphanum)
    else c :: textList cs
termination_by cs => cs.length
decreasing_by
  · exact Nat.lt_succ_of_le (List.dropWhile_suffix _).length_le
  · exact Nat.lt_succ_self _

/-- The source with new words in it. -/
def text (source : String) : String := .ofList (r.textList source.toList)

/-- The lexeme under new names: an identifier or a label has a new text, and a label keeps its
colon. -/
def lexeme (l : Lexeme) : Lexeme :=
  match l.kind with
  | .identifier | .label => { l with text := r.text l.text }
  | .constant | .spelling _ | .unmapped => l

/-- The outcome under new names. -/
def outcome : Except (List Diagnostic) Analysis → Except (List Diagnostic) Analysis
  | .ok a => .ok (a.recast r.name r.lexeme)
  | .error diagnostics => .error (diagnostics.map (Diagnostic.rename r.name))

/-! ## Words -/

theorem nameList_of_isWord {w : List Char} (hw : IsWord w) : r.nameList w = (r.word ⟨w, hw⟩).1 :=
  dif_pos hw

theorem nameList_of_not_isWord {w : List Char} (hw : ¬IsWord w) : r.nameList w = w := dif_neg hw

theorem isWord_nameList {w : List Char} (hw : IsWord w) : IsWord (r.nameList w) := by
  rw [r.nameList_of_isWord hw]
  exact (r.word ⟨w, hw⟩).2

theorem isWord_nameList_iff {w : List Char} : IsWord (r.nameList w) ↔ IsWord w := by
  by_cases hw : IsWord w
  · exact iff_of_true (r.isWord_nameList hw) hw
  · rw [r.nameList_of_not_isWord hw]

theorem injective_nameList : r.nameList.Injective := by
  intro v w h
  have hiff : IsWord v ↔ IsWord w := by
    rw [← r.isWord_nameList_iff, h, r.isWord_nameList_iff]
  by_cases hv : IsWord v
  · rw [r.nameList_of_isWord hv, r.nameList_of_isWord (hiff.1 hv)] at h
    exact congrArg Subtype.val (r.injective (Subtype.ext h))
  · rwa [r.nameList_of_not_isWord hv, r.nameList_of_not_isWord (mt hiff.2 hv)] at h

theorem injective_name : r.name.Injective := by
  intro v w h
  exact String.toList_inj.1 (r.injective_nameList (String.ofList_injective h))

theorem nameList_of_contains {w : List Char} (h : table.contains (.ofList w) = true) :
    r.nameList w = w := by
  by_cases hw : IsWord w
  · rw [r.nameList_of_isWord hw, r.fixes ⟨w, hw⟩ h]
  · exact r.nameList_of_not_isWord hw

/-- No word becomes a key that was none. -/
theorem contains_nameList (w : List Char) :
    table.contains (.ofList (r.nameList w)) = table.contains (.ofList w) := by
  rw [Bool.eq_iff_iff]
  constructor
  · intro h
    have hfix : r.nameList w = w := r.injective_nameList (r.nameList_of_contains h)
    rwa [hfix] at h
  · intro h
    rwa [r.nameList_of_contains h]

theorem name_ofList (w : List Char) : r.name (.ofList w) = .ofList (r.nameList w) := by
  rw [name, String.toList_ofList]

theorem text_ofList (cs : List Char) : r.text (.ofList cs) = .ofList (r.textList cs) := by
  rw [text, String.toList_ofList]

/-! ## Texts -/

theorem textList_nil : r.textList [] = [] := by rw [textList]

theorem textList_cons {c : Char} (hc : c.isAlpha = false) (cs : List Char) :
    r.textList (c :: cs) = c :: r.textList cs := by
  rw [textList, if_neg (by simp [hc])]

theorem textList_word_append {w rest : List Char} (hw : IsWord w)
    (hend : Ends Char.isAlphanum rest) :
    r.textList (w ++ rest) = r.nameList w ++ r.textList rest := by
  obtain ⟨c, cs, rfl, hc⟩ := hw.exists_cons
  have hcs : ∀ d ∈ cs, d.isAlphanum = true := fun d hd => hw.2 d (List.mem_cons_of_mem _ hd)
  rw [List.cons_append, textList, if_pos hc, takeWhile_eq_of_ends hcs hend,
    dropWhile_eq_of_ends hcs hend]

theorem textList_word {w : List Char} (hw : IsWord w) : r.textList w = r.nameList w := by
  have h : r.textList (w ++ []) = _ := r.textList_word_append hw fun _ => nofun
  rwa [List.append_nil, textList_nil, List.append_nil] at h

theorem textList_word_colon {w : List Char} (hw : IsWord w) (rest : List Char) :
    r.textList (w ++ ':' :: rest) = r.nameList w ++ ':' :: r.textList rest := by
  rw [r.textList_word_append hw (by simp [Ends]), r.textList_cons (by decide)]

theorem textList_label {w : List Char} (hw : IsWord w) :
    r.textList (w ++ [':']) = r.nameList w ++ [':'] := by
  rw [r.textList_word_colon hw, textList_nil]

theorem textList_append {text : List Char} (htext : ∀ c ∈ text, c.isAlpha = false)
    (rest : List Char) : r.textList (text ++ rest) = text ++ r.textList rest := by
  induction text with
  | nil => rfl
  | cons c cs ih =>
    rw [List.forall_mem_cons] at htext
    rw [List.cons_append, r.textList_cons htext.1, ih htext.2, List.cons_append]

theorem textList_of_isAlpha {text : List Char} (htext : ∀ c ∈ text, c.isAlpha = false) :
    r.textList text = text := by
  have h := r.textList_append htext []
  rwa [List.append_nil, textList_nil, List.append_nil] at h

/-- A word begins where one began. -/
theorem textList_of_letter {c : Char} (hc : c.isAlpha = true) (cs : List Char) :
    ∃ d ds, r.textList (c :: cs) = d :: ds ∧ d.isAlpha = true := by
  have hw : IsWord (c :: cs.takeWhile Char.isAlphanum) := by
    refine ⟨⟨c, rfl, hc⟩, List.forall_mem_cons.2 ⟨by simp [Char.isAlphanum, hc], ?_⟩⟩
    exact fun d hd => List.mem_takeWhile_imp hd
  obtain ⟨d, ds, hname, hd⟩ := (r.isWord_nameList hw).exists_cons
  rw [textList, if_pos hc, hname]
  exact ⟨d, _, rfl, hd⟩

/-! ## Pieces -/

/-- What stands behind a piece may be renamed. -/
theorem isMunch_textList {afterOperand : Bool} {m : Munch} {rest : List Char}
    (h : IsMunch afterOperand m rest) : IsMunch afterOperand m (r.textList rest) := by
  cases rest with
  | nil => rwa [textList_nil]
  | cons c cs =>
    cases hc : c.isAlpha with
    | false =>
      rw [r.textList_cons hc]
      exact h.of_head? fun d hd _ => hd
    | true =>
      obtain ⟨d, ds, hrest, hd⟩ := r.textList_of_letter hc cs
      rw [hrest]
      refine h.before_letter ?_ hd ds
      -- a word would have gone on
      intro hm
      cases h with
      | word _ hend =>
        have hcontra := hend c rfl
        rw [Char.isAlphanum, hc] at hcontra
        cases hcontra
      | _ => cases hm

end Renaming

theorem IsMunch.isAlpha_eq_false {afterOperand : Bool} {m : Munch} {rest : List Char}
    (h : IsMunch afterOperand m rest) (hword : m.shape ≠ .word) (hlabel : m.shape ≠ .label) :
    ∀ c ∈ m.text, c.isAlpha = false := by
  have hoperator (hm : m.shape = .operator) : ∀ c ∈ m.text, c.isAlpha = false := fun c hc =>
    (Bool.or_eq_false_iff.1 (h.isAlphanum_of_operator hm c hc)).1
  cases h with
  | label => exact absurd rfl hlabel
  | word => exact absurd rfl hword
  | numeral hds => exact fun c hc => isAlpha_eq_false_of_isDigit (hds.2 c hc)
  | negative hds =>
    refine List.forall_mem_cons.2 ⟨by decide, fun c hc => isAlpha_eq_false_of_isDigit (hds.2 c hc)⟩
  | bang | newline => simp
  | @blank c _ hc =>
    intro d hd
    obtain rfl := List.mem_singleton.1 hd
    rcases isBlank_iff.1 hc with rfl | rfl <;> decide
  | @illegal c _ hc =>
    intro d hd
    obtain rfl := List.mem_singleton.1 hd
    simp only [isLegal, isLexical, Char.isAlphanum, Bool.or_eq_false_iff] at hc
    obtain ⟨⟨⟨⟨⟨halpha, -⟩, -⟩, -⟩, -⟩, -⟩ := hc
    exact halpha
  | _ => exact hoperator rfl

namespace Renaming

variable {table : Spellings} (r : Renaming table)

/-- The piece under new names. -/
def munch (m : Munch) : Munch := ⟨m.shape, r.textList m.text⟩

/-- **A longest piece of a source is one of the renamed source**, under its new name. -/
theorem cut {afterOperand : Bool} {m : Munch} {rest : List Char} (h : IsMunch afterOperand m rest) :
    r.textList (m.text ++ rest) = (r.munch m).text ++ r.textList rest ∧
      IsMunch afterOperand (r.munch m) (r.textList rest) := by
  have hrest := r.isMunch_textList h
  have hother (hword : m.shape ≠ .word) (hlabel : m.shape ≠ .label) :
      r.textList (m.text ++ rest) = (r.munch m).text ++ r.textList rest ∧
        IsMunch afterOperand (r.munch m) (r.textList rest) := by
    have htext := h.isAlpha_eq_false hword hlabel
    rw [munch, r.textList_of_isAlpha htext]
    exact ⟨r.textList_append htext rest, hrest⟩
  cases h with
  | @label w _ hw =>
    have htext : r.munch ⟨.label, w ++ [':']⟩ = ⟨.label, r.nameList w ++ [':']⟩ := by
      rw [munch, r.textList_label hw]
    rw [htext]
    refine ⟨?_, .label (r.isWord_nameList hw)⟩
    rw [List.append_assoc, List.append_assoc]
    exact r.textList_word_colon hw rest
  | @word w _ hw hend hcolon =>
    have htext : r.munch ⟨.word, w⟩ = ⟨.word, r.nameList w⟩ := by rw [munch, r.textList_word hw]
    rw [htext]
    refine ⟨r.textList_word_append hw hend, ?_⟩
    cases hrest with
    | word _ hend hcolon => exact .word (r.isWord_nameList hw) hend hcolon
  | _ => exact hother (by simp) (by simp)

/-! ## Lexemes -/

theorem lexeme_of_kind {l : Lexeme} (h : l.kind = .identifier ∨ l.kind = .label) :
    r.lexeme l = { l with text := r.text l.text } := by
  rw [lexeme]
  rcases h with h | h <;> rw [h]

theorem lexeme_of_not_isSymbolic {l : Lexeme} (h : l.kind.isSymbolic = false) : r.lexeme l = l := by
  rw [lexeme]
  cases hkind : l.kind with
  | identifier | label => rw [hkind] at h; cases h
  | _ => rfl

theorem wordKind_nameList {lx lx' : Lexer} (h : Lexer.InStep 0 lx lx') (w : List Char) :
    lx'.wordKind table (.ofList (r.nameList w)) = lx.wordKind table (.ofList w) := by
  have hcontains := r.contains_nameList w
  rw [Lexer.wordKind, Lexer.wordKind, h.afterGoto]
  cases hkey : table.contains (.ofList w) with
  | true => rw [r.nameList_of_contains hkey]
  | false =>
    rw [hkey] at hcontains
    rw [Spellings.code?_eq_none_iff.2 hkey, Spellings.code?_eq_none_iff.2 hcontains]

theorem lexeme_word {w : List Char} (hw : IsWord w) (lx : Lexer) (line : UInt32) :
    r.lexeme ⟨line, .ofList w, lx.wordKind table (.ofList w)⟩ =
      ⟨line, .ofList (r.nameList w), lx.wordKind table (.ofList w)⟩ := by
  cases hcode : table.code? (.ofList w) with
  | some code =>
    have hkey : table.contains (.ofList w) = true := by rw [Spellings.contains, hcode]; rfl
    rw [Lexer.wordKind, hcode, r.nameList_of_contains hkey]
    rfl
  | none =>
    rw [Lexer.wordKind, hcode, ← r.textList_word hw, ← text_ofList]
    cases lx.afterGoto <;> rfl

theorem classify_munch {lx lx' : Lexer} {m : Munch} {rest : List Char}
    (h : Lexer.InStep 0 lx lx') (hm : IsMunch lx.afterOperand m rest) :
    lx'.classify table (r.munch m) = (lx.classify table m).recast r.lexeme := by
  have hother := hm.isAlpha_eq_false
  rcases m with ⟨shape, text⟩
  rw [munch, Lexer.classify, Lexer.classify, h.line_eq]
  cases shape with
  | word =>
    have hw : IsWord text := hm.isWord_of_word rfl
    dsimp only
    rw [r.textList_word hw, r.wordKind_nameList h, ← r.lexeme_word hw]
    rfl
  | label =>
    dsimp only
    rw [← r.text_ofList]
    rfl
  | number =>
    dsimp only
    rw [r.textList_of_isAlpha (hother (by simp) (by simp))]
    rfl
  | operator =>
    dsimp only
    rw [r.textList_of_isAlpha (hother (by simp) (by simp)), Piece.recast,
      r.lexeme_of_not_isSymbolic (Lexer.isSymbolic_operatorKind ..)]
  | newline | rejected _ | blank => rfl

theorem matches_word {kind : Kind} (hkind : kind = .identifier ∨ kind = .label) {w : List Char}
    (hw : IsWord w) (hkey : table.contains (.ofList w) = false)
    (hgoto : table.contains gotoSpelling = true) (line : UInt32) :
    Lexeme.Matches r.name ⟨line, .ofList w, kind⟩ (r.lexeme ⟨line, .ofList w, kind⟩) := by
  have hkey' : table.contains (.ofList (r.nameList w)) = false := by rw [r.contains_nameList, hkey]
  have hw' := r.isWord_nameList hw
  rw [r.lexeme_of_kind hkind, r.text_ofList, r.textList_word hw]
  apply Lexeme.matches_of_isSymbolic
  · rcases hkind with rfl | rfl <;> rfl
  · rcases hkind with rfl | rfl <;> simp
  · rw [Lexeme.isGoto_of_contains hgoto hkey', Lexeme.isGoto_of_contains hgoto hkey]
  · rw [Lexeme.isNewline_of_isLexical (isLexical_of_isWord hw') rfl,
      Lexeme.isNewline_of_isLexical (isLexical_of_isWord hw) rfl]
  · rw [Lexeme.symbolName_of_isWord hw' rfl, Lexeme.symbolName_of_isWord hw rfl, r.name_ofList]

theorem matches_label {w : List Char} (hw : IsWord w) (line : UInt32) :
    Lexeme.Matches r.name ⟨line, .ofList (w ++ [':']), .label⟩
      (r.lexeme ⟨line, .ofList (w ++ [':']), .label⟩) := by
  have hlexical {v : List Char} (hv : IsWord v) : ∀ c ∈ v ++ [':'], isLexical c = true :=
    (IsMunch.label hv : IsMunch false ⟨.label, v ++ [':']⟩ []).forall_isLexical rfl
  have hw' := r.isWord_nameList hw
  rw [r.lexeme_of_kind (.inr rfl), r.text_ofList, r.textList_label hw]
  apply Lexeme.matches_of_isSymbolic
  · rfl
  · simp
  · rw [Lexeme.isGoto_of_colon rfl, Lexeme.isGoto_of_colon rfl]
  · rw [Lexeme.isNewline_of_isLexical (hlexical hw') rfl,
      Lexeme.isNewline_of_isLexical (hlexical hw) rfl]
  · rw [Lexeme.symbolName_of_label rfl, Lexeme.symbolName_of_label rfl,
      Lexeme.labelName_of_colon rfl, Lexeme.labelName_of_colon rfl, r.name_ofList]

/-- **A lexeme answers under its new name as before**, if the `goto` is kept. -/
theorem matches_lexeme (hgoto : table.contains gotoSpelling = true) {l : Lexeme}
    (h : l.Spelled table) : l.Matches r.name (r.lexeme l) := by
  have hconstant {line : UInt32} {text : List Char} (htext : ¬IsWord text) :
      Lexeme.Matches r.name ⟨line, .ofList text, .constant⟩ ⟨line, .ofList text, .constant⟩ := by
    apply Lexeme.matches_self
    intro _
    rw [Lexeme.symbolName_of_ne_label (by simp), r.name_ofList, r.nameList_of_not_isWord htext]
  cases h with
  | keyword | newline => exact Lexeme.matches_self nofun
  | identifier hw hcode =>
    exact r.matches_word (.inl rfl) hw (Spellings.code?_eq_none_iff.1 hcode) hgoto _
  | target hw hcode =>
    exact r.matches_word (.inr rfl) hw (Spellings.code?_eq_none_iff.1 hcode) hgoto _
  | label hw => exact r.matches_label hw _
  | numeral hds => exact hconstant hds.not_isWord
  | negative => exact hconstant fun hw => absurd (hw.2 '-' (by simp)) (by decide)
  | @operator line text =>
    have hkind := Lexer.isSymbolic_operatorKind table (.ofList text)
    rw [r.lexeme_of_not_isSymbolic hkind]
    exact Lexeme.matches_self fun h => absurd (hkind.symm.trans h) Bool.false_ne_true

/-- **A lexer finds the renamed pieces in a renamed source.** -/
theorem translates (hgoto : table.contains gotoSpelling = true) :
    Lexer.Translates 0 table table r.textList r.munch (Piece.recast r.lexeme) :=
  Lexer.translates_of_matches r.textList_nil r.cut (fun _ => rfl) r.classify_munch
    fun _ => r.matches_lexeme hgoto

end Renaming

/-- **The names in a source do not matter**: a renamed source has the renamed outcome. -/
theorem analyze_renamed (r : Renaming .standard) (source : String) :
    analyze (r.text source) = r.outcome (analyze source) := by
  have hgoto : Spellings.standard.contains gotoSpelling = true := by decide +kernel
  have htext : (r.text source).toList = r.textList source.toList := by
    rw [Renaming.text, String.toList_ofList]
  rw [analyze, (r.translates hgoto).analyzeWith_eq r.injective_name
    (fun _ => r.matches_lexeme hgoto) htext, analyze]
  cases analyzeWith .standard source <;> rfl

/-- A variable and a label that swap their names. -/
theorem analyze_renamed_of_swap :
    ∃ r : Renaming .standard, r.text "int x\nL: goto L" = "int L\nx: goto x" ∧
      analyze "int L\nx: goto x" = r.outcome (analyze "int x\nL: goto L") ∧
      analyze "int L\nx: goto x" = .ok
        ⟨[⟨⟨1, "int", .spelling 13⟩, 1, none⟩, ⟨⟨1, "L", .identifier⟩, 2, some 1⟩,
            ⟨⟨1, "¶", .spelling 31⟩, 3, none⟩, ⟨⟨2, "x:", .label⟩, 4, some 1⟩,
            ⟨⟨2, "goto", .spelling 25⟩, 5, none⟩, ⟨⟨2, "x", .label⟩, 6, some 1⟩],
          [⟨"L", 1, "int"⟩], [], [⟨"x", 1, some 2, some 2⟩]⟩ := by
  let r : Renaming .standard :=
    .swap ⟨['x'], by decide⟩ ⟨['L'], by decide⟩ (by decide +kernel) (by decide +kernel)
  have htext : r.text "int x\nL: goto L" = "int L\nx: goto x" := by cbv
  have hrenamed := analyze_renamed r "int x\nL: goto L"
  rw [htext] at hrenamed
  exact ⟨r, htext, hrenamed, by cbv⟩

end Lexis
