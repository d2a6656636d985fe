import Lexis.Proofs.Pieces

/-!
# Lexers in step

Of what a lexer has passed, only two questions about the last lexeme and the number of the line
matter to what it finds. Two lexers that answer these questions alike find the same pieces, moved
by the lines that the second one is ahead.

* `Lexeme.shift`, `Diagnostic.shift`, `Piece.shift`: moved down by a number of lines;
* `Lexer.InStep`: the lexers answer alike;
* `Lexer.Translates`, **`Lexer.Translates.pieces_eq`**: where one lexer stands before a text and the
  other one before a translation of it, the second one finds the translated pieces;
* **`Lexer.InStep.pieces_eq`**: they find the same pieces in the same text.
-/

namespace Lexis

/-- The lexeme, `k` lines further down. -/
def Lexeme.shift (k : UInt32) (l : Lexeme) : Lexeme := { l with line := l.line + k }

/-- The diagnostic, `k` lines further down. -/
def Diagnostic.shift (k : UInt32) (d : Diagnostic) : Diagnostic :=
  { d with line := d.line.map (· + k) }

/-- The piece, `k` lines further down. -/
def Piece.shift (k : UInt32) : Piece → Piece
  | .lexeme l => .lexeme (l.shift k)
  | .rejected d => .rejected (d.shift k)
  | .blank => .blank

section

variable (k : UInt32) (l : Lexeme)

@[simp] theorem Lexeme.text_shift : (l.shift k).text = l.text := rfl
@[simp] theorem Lexeme.kind_shift : (l.shift k).kind = l.kind := rfl
@[simp] theorem Lexeme.line_shift : (l.shift k).line = l.line + k := rfl
@[simp] theorem Lexeme.isOperand_shift : (l.shift k).isOperand = l.isOperand := rfl
@[simp] theorem Lexeme.isGoto_shift : (l.shift k).isGoto = l.isGoto := rfl
@[simp] theorem Lexeme.isNewline_shift : (l.shift k).isNewline = l.isNewline := rfl
@[simp] theorem Lexeme.isTypeKeyword_shift : (l.shift k).isTypeKeyword = l.isTypeKeyword := rfl
@[simp] theorem Lexeme.labelName_shift : (l.shift k).labelName = l.labelName := rfl

@[simp] theorem Lexeme.shift_zero : l.shift 0 = l := by
  simp [shift]

@[simp] theorem Piece.shift_zero (p : Piece) : p.shift 0 = p := by
  cases p <;> simp [shift, Diagnostic.shift]

theorem Piece.map_shift_zero (ps : List Piece) : ps.map (shift 0) = ps :=
  (List.map_congr_left fun p _ => shift_zero p).trans (List.map_id ps)

theorem Piece.lexeme?_shift (p : Piece) : (p.shift k).lexeme? = p.lexeme?.map (Lexeme.shift k) := by
  cases p <;> rfl

theorem Piece.lexemes_map_shift (ps : List Piece) :
    lexemes (ps.map (shift k)) = (lexemes ps).map (Lexeme.shift k) := by
  rw [lexemes, lexemes, List.filterMap_map, List.map_filterMap]
  exact List.filterMap_congr fun p _ => lexeme?_shift k p

end

namespace Lexer

/-- The second lexer remembers what matters of the last lexeme as the first one does, and is `k`
lines ahead. -/
structure InStep (k : UInt32) (lx lx' : Lexer) : Prop where
  afterOperand : lx'.afterOperand = lx.afterOperand
  afterGoto : lx'.afterGoto = lx.afterGoto
  line : lx'.cursor.line = lx.cursor.line + k

theorem afterOperand_pass (table : Spellings) (lx : Lexer) (m : Munch) :
    (lx.pass table m).afterOperand =
      ((lx.classify table m).lexeme?.map Lexeme.isOperand).getD lx.afterOperand := by
  rw [afterOperand, pass]
  cases (lx.classify table m).lexeme? <;> rfl

theorem afterGoto_pass (table : Spellings) (lx : Lexer) (m : Munch) :
    (lx.pass table m).afterGoto =
      ((lx.classify table m).lexeme?.map Lexeme.isGoto).getD lx.afterGoto := by
  rw [afterGoto, pass]
  cases (lx.classify table m).lexeme? <;> rfl

namespace InStep

variable {k : UInt32} {lx lx' : Lexer} (h : InStep k lx lx') (table : Spellings) (m : Munch)
include h

theorem classify : lx'.classify table m = (lx.classify table m).shift k := by
  unfold Lexer.classify
  cases m.shape <;>
    simp [Piece.shift, Lexeme.shift, Diagnostic.shift, h.line, wordKind, h.afterGoto]

theorem pass : InStep k (lx.pass table m) (lx'.pass table m) := by
  refine ⟨?_, ?_, ?_⟩
  · rw [afterOperand_pass, afterOperand_pass, h.classify, Piece.lexeme?_shift, Option.map_map,
      h.afterOperand]
    rfl
  · rw [afterGoto_pass, afterGoto_pass, h.classify, Piece.lexeme?_shift, Option.map_map,
      h.afterGoto]
    rfl
  · rw [line_pass, line_pass, h.line]
    split
    · rw [UInt32.add_assoc, UInt32.add_comm k, UInt32.add_assoc]
    · rfl

/-- A blank is not remembered. -/
theorem pass_blank_left {c : Char} : InStep k (lx.pass table ⟨.blank, [c]⟩) lx' :=
  ⟨h.afterOperand, h.afterGoto, h.line⟩

theorem pass_blank_right {c : Char} : InStep k lx (lx'.pass table ⟨.blank, [c]⟩) :=
  ⟨h.afterOperand, h.afterGoto, h.line⟩

end InStep

theorem InStep.line_eq {lx lx' : Lexer} (h : InStep 0 lx lx') :
    lx'.cursor.line = lx.cursor.line := by
  simpa using h.line

/-- What is remembered at the start of a source does not depend on the source. -/
theorem InStep.ofSource (source other : String) :
    InStep 0 (Lexer.ofSource source) (Lexer.ofSource other) := ⟨rfl, rfl, rfl⟩

theorem rest_ofSource (source : String) : (ofSource source).cursor.rest = source.toList := rfl

/-! ## Translated texts -/

/-- Texts, their longest pieces and what these are are translated alike: where a lexer takes a
piece, one in step with it takes the translation of the piece, and they stay in step. -/
structure Translates (k : UInt32) (table table' : Spellings) (text : List Char → List Char)
    (munch : Munch → Munch) (piece : Piece → Piece) : Prop where
  nil : text [] = []
  cut : ∀ {afterOperand : Bool} {m : Munch} {rest : List Char}, IsMunch afterOperand m rest →
    text (m.text ++ rest) = (munch m).text ++ text rest ∧ IsMunch afterOperand (munch m) (text rest)
  step : ∀ {lx lx' : Lexer} {m : Munch} {rest : List Char}, InStep k lx lx' →
    IsMunch lx.afterOperand m rest → lx'.classify table' (munch m) = piece (lx.classify table m) ∧
      InStep k (lx.pass table m) (lx'.pass table' (munch m))

/-- **A lexer finds the translated pieces in the translated text.** -/
theorem Translates.pieces_eq {k : UInt32} {table table' : Spellings} {text : List Char → List Char}
    {munch : Munch → Munch} {piece : Piece → Piece}
    (t : Translates k table table' text munch piece) {lx lx' : Lexer} (h : InStep k lx lx')
    (hrest : lx'.cursor.rest = text lx.cursor.rest) :
    lx'.pieces table' = (lx.pieces table).map piece := by
  induction lx using munch_induction table generalizing lx' with
  | done lx hnil =>
    rw [hnil, t.nil] at hrest
    rw [pieces_of_rest_eq_nil hnil, pieces_of_rest_eq_nil hrest, List.map_nil]
  | step lx m rest hm hcut ih =>
    obtain ⟨htext, hm'⟩ := t.cut hm
    obtain ⟨hclassify, hpass⟩ := t.step h hm
    rw [hcut, htext] at hrest
    rw [← h.afterOperand] at hm'
    have htail := ih hpass (by rw [rest_pass hrest, rest_pass hcut])
    rw [pieces_of_isMunch hm hcut, pieces_of_isMunch hm' hrest, List.map_cons, hclassify, htail]

theorem translates_shift (k : UInt32) (table : Spellings) :
    Translates k table table id id (Piece.shift k) where
  nil := rfl
  cut hm := ⟨rfl, hm⟩
  step h _ := ⟨h.classify table _, h.pass table _⟩

/-- **Lexers in step find the same pieces in the same text**, on lines as far apart as theirs. -/
theorem InStep.pieces_eq {k : UInt32} {lx lx' : Lexer} (h : InStep k lx lx') (table : Spellings)
    (hrest : lx'.cursor.rest = lx.cursor.rest) :
    lx'.pieces table = (lx.pieces table).map (Piece.shift k) :=
  (translates_shift k table).pieces_eq h hrest

end Lexer

end Lexis
