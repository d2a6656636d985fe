import Lexis.Proofs.Layout
import Lexis.Proofs.Numbering

/-!
# What a lexeme can be

The text of a lexeme and the table tell its kind, but for a word that the table lacks: that is an
identifier or the target of a `goto`.

* `Lexeme.Spelled`: the lexemes that a lexer can find, one rule a sort;
* `Lexeme.labelName_of_isWord`, `Lexeme.labelName_of_colon`: the name of a label without and with
  its colon;
* **`Lexer.spelled_of_mem_pieces`**: a lexer finds no others.
-/

namespace Lexis

open Alphabet

/-- The lexemes that a lexer can find under a spelling table. -/
inductive Lexeme.Spelled (table : Spellings) : Lexeme → Prop
  /-- A word that is a key of the table. -/
  | keyword {line : UInt32} {w : List Char} {code : Nat} (hw : IsWord w)
      (hcode : table.code? (.ofList w) = some code) :
      Spelled table ⟨line, .ofList w, .spelling code⟩
  | identifier {line : UInt32} {w : List Char} (hw : IsWord w)
      (hcode : table.code? (.ofList w) = none) : Spelled table ⟨line, .ofList w, .identifier⟩
  /-- The word behind a `goto`. -/
  | target {line : UInt32} {w : List Char} (hw : IsWord w)
      (hcode : table.code? (.ofList w) = none) : Spelled table ⟨line, .ofList w, .label⟩
  /-- A word with its colon, whatever the table says of the word. -/
  | label {line : UInt32} {w : List Char} (hw : IsWord w) :
      Spelled table ⟨line, .ofList (w ++ [':']), .label⟩
  | numeral {line : UInt32} {ds : List Char} (hds : IsNumeral ds) :
      Spelled table ⟨line, .ofList ds, .constant⟩
  | negative {line : UInt32} {ds : List Char} (hds : IsNumeral ds) :
      Spelled table ⟨line, .ofList ('-' :: ds), .constant⟩
  | operator {line : UInt32} {text : List Char} (hne : text ≠ [])
      (htext : ∀ c ∈ text, isLexical c = true ∧ c.isAlphanum = false) :
      Spelled table ⟨line, .ofList text, Lexer.operatorKind table (.ofList text)⟩
  | newline {line : UInt32} : Spelled table ⟨line, newlineText, .spelling table.newlineCode⟩

theorem Spellings.code?_eq_none_iff {table : Spellings} {spelling : String} :
    table.code? spelling = none ↔ table.contains spelling = false := by
  rw [contains, Option.isSome_eq_false_iff, Option.isNone_iff_eq_none]

/-! ## Kinds of operators -/

theorem Lexer.isSymbolic_operatorKind (table : Spellings) (text : String) :
    (operatorKind table text).isSymbolic = false := by
  rw [operatorKind]
  cases table.code? text <;> rfl

theorem Lexer.isSpelling_operatorKind (table : Spellings) (text : String) :
    (operatorKind table text).isSpelling = table.contains text := by
  rw [operatorKind, Spellings.contains]
  cases table.code? text <;> rfl

/-! ## What lexemes answer -/

namespace Lexeme

variable {l : Lexeme} {w : List Char}

theorem isGoto_of_contains {table : Spellings} (hgoto : table.contains gotoSpelling = true)
    (h : table.contains l.text = false) : l.isGoto = false := by
  apply decide_eq_false
  intro heq
  rw [heq, hgoto] at h
  cases h

theorem isGoto_of_colon (htext : l.text = .ofList (w ++ [':'])) : l.isGoto = false := by
  apply decide_eq_false
  intro heq
  have hlast := congrArg (fun text => text.toList.getLast?) (htext.symm.trans heq)
  rw [String.toList_ofList, List.getLast?_concat] at hlast
  exact absurd hlast (by decide)

theorem labelName_of_isWord (hw : IsWord w) (htext : l.text = .ofList w) :
    l.labelName = .ofList w := by
  have hlast : w.getLast? ≠ some ':' := fun hlast =>
    absurd (hw.2 ':' (List.mem_of_getLast? hlast)) (by decide)
  simp [labelName, htext, hlast]

theorem symbolName_of_isWord (hw : IsWord w) (htext : l.text = .ofList w) :
    l.symbolName = .ofList w := by
  by_cases hkind : l.kind = .label
  · rw [symbolName_of_label hkind, labelName_of_isWord hw htext]
  · rw [symbolName_of_ne_label hkind, htext]

theorem labelName_of_colon (htext : l.text = .ofList (w ++ [':'])) : l.labelName = .ofList w := by
  simp [labelName, htext]

end Lexeme

/-! ## Pieces -/

theorem isAlphanum_of_isSolo {c : Char} (h : isSolo c = true) : c.isAlphanum = false := by
  have hall : solo.all (fun c => !c.isAlphanum) = true := by decide
  simpa using List.all_eq_true.1 hall c (isSolo_iff.1 h)

theorem isAlphanum_of_mem_followers {c d : Char} (hd : d ∈ followers c) :
    c.isAlphanum = false ∧ d.isAlphanum = false := by
  rcases eq_of_mem_followers hd with ⟨rfl, rfl⟩ | ⟨rfl, rfl⟩ | ⟨rfl, rfl⟩ | ⟨rfl, rfl⟩ | ⟨rfl, rfl⟩
  all_goals decide

namespace IsMunch

variable {afterOperand : Bool} {m : Munch} {rest : List Char}

theorem isAlphanum_of_operator (h : IsMunch afterOperand m rest) (hm : m.shape = .operator) :
    ∀ c ∈ m.text, c.isAlphanum = false := by
  cases h with
  | minus => simp
  | solo hc => simpa using isAlphanum_of_isSolo hc
  | joined hd => simpa using isAlphanum_of_mem_followers hd
  | single hc =>
    obtain ⟨d, hd⟩ := List.exists_mem_of_ne_nil _ hc
    simpa using (isAlphanum_of_mem_followers hd).1
  | unequal => simp
  | _ => cases hm

theorem spelled_of_operator (h : IsMunch afterOperand m rest) (hm : m.shape = .operator)
    (table : Spellings) (line : UInt32) :
    Lexeme.Spelled table ⟨line, .ofList m.text, Lexer.operatorKind table (.ofList m.text)⟩ :=
  .operator h.text_ne_nil fun c hc =>
    ⟨h.forall_isLexical (by rw [hm]; rfl) c hc, h.isAlphanum_of_operator hm c hc⟩

/-- **A longest piece that is a lexeme is one of these.** -/
theorem spelled (h : IsMunch afterOperand m rest) {table : Spellings} {lx : Lexer} {l : Lexeme}
    (hl : lx.classify table m = .lexeme l) : l.Spelled table := by
  have hoperator := h.spelled_of_operator
  cases h with
  | label hw => cases hl; exact .label hw
  | @word w _ hw =>
    cases hl
    cases hcode : table.code? (.ofList w) with
    | some code =>
      rw [Lexer.wordKind, hcode]
      exact .keyword hw hcode
    | none =>
      rw [Lexer.wordKind, hcode]
      cases lx.afterGoto
      · exact .identifier hw hcode
      · exact .target hw hcode
  | numeral hds => cases hl; exact .numeral hds
  | negative hds => cases hl; exact .negative hds
  | newline => cases hl; exact .newline
  | bang | blank | illegal => cases hl
  | _ => cases hl; exact hoperator rfl table _

end IsMunch

/-- **All lexemes that a lexer finds are of these sorts.** -/
theorem Lexer.spelled_of_mem_pieces (table : Spellings) (lx : Lexer) {l : Lexeme}
    (hl : l ∈ Piece.lexemes (lx.pieces table)) : l.Spelled table := by
  refine forall_mem_pieces (P := fun p => ∀ l, p = .lexeme l → l.Spelled table) table
    (fun lx m rest h l hl => ?_) lx _ (Piece.mem_lexemes_iff.1 hl) l rfl
  exact h.spelled hl

end Lexis
