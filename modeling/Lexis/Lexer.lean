import Lexis.Cursor
import Lexis.Munch
import Lexis.Token

/-!
# The lexer

The lexer cuts a source text into pieces: lexemes, blanks, and characters that it rejects. Of what
it has passed it remembers its place and the last lexeme only.

* `Piece`: a piece of the source;
* `Lexer`, `Lexer.ofSource`, `Lexer.idle`, `Lexer.next?`: the state, its start, the state before any
  source, and the step to the next piece;
* `Lexer.fold`: a fold over the pieces that are left, in order;
* `Lexer.pieces`: the list of these pieces, with `Lexer.fold_eq_foldl`.
-/

namespace Lexis

/-- A piece of a source text. -/
inductive Piece
  | lexeme (lexeme : Lexeme)
  | rejected (diagnostic : Diagnostic)
  | blank
  deriving DecidableEq, Repr, Inhabited

/-- The lexeme that the piece is. -/
def Piece.lexeme? : Piece → Option Lexeme
  | .lexeme l => some l
  | _ => none

/-- The state of the lexer. -/
structure Lexer where
  cursor : Cursor
  /-- The lexeme before the cursor. -/
  last : Option Lexeme
  deriving DecidableEq, Repr, Inhabited

namespace Lexer

/-- The lexer at the start of a source text. -/
def ofSource (source : String) : Lexer := ⟨.ofSource source, none⟩

/-- The lexer before any source. -/
def idle : Lexer := ⟨.empty, none⟩

/-- The last lexeme is an operand. -/
def afterOperand (lx : Lexer) : Bool := lx.last.any Lexeme.isOperand

/-- The last lexeme says that a label comes next. -/
def afterGoto (lx : Lexer) : Bool := lx.last.any Lexeme.isGoto

/-- A word is a keyword if the table has it. Any other word names a label after a `goto` and an
identifier elsewhere. -/
def wordKind (table : Spellings) (lx : Lexer) (text : String) : Kind :=
  match table.code? text with
  | some code => .spelling code
  | none => if lx.afterGoto then .label else .identifier

/-- An operator has the code that the table gives it. -/
def operatorKind (table : Spellings) (text : String) : Kind :=
  (table.code? text).elim .unmapped .spelling

/-- What the piece `m` of the input is, when the lexer stands before it. -/
def classify (table : Spellings) (lx : Lexer) (m : Munch) : Piece :=
  let text := String.ofList m.text
  let line := lx.cursor.line
  match m.shape with
  | .word => .lexeme ⟨line, text, lx.wordKind table text⟩
  | .label => .lexeme ⟨line, text, .label⟩
  | .number => .lexeme ⟨line, text, .constant⟩
  | .operator => .lexeme ⟨line, text, operatorKind table text⟩
  | .newline => .lexeme ⟨line, newlineText, .spelling table.newlineCode⟩
  | .blank => .blank
  | .rejected fault => .rejected ⟨fault, some line⟩

/-- The cursor behind the piece `m`; a newline ends its line. -/
def cursorAfter (lx : Lexer) (m : Munch) : Cursor :=
  match m.shape with
  | .newline => lx.cursor.nextLine.skip m.text.length
  | _ => lx.cursor.skip m.text.length

/-- The lexer behind the piece `m`. -/
def pass (table : Spellings) (lx : Lexer) (m : Munch) : Lexer where
  cursor := lx.cursorAfter m
  last := (lx.classify table m).lexeme?.or lx.last

/-- The next piece of the source, and the lexer behind it. -/
def next? (table : Spellings) (lx : Lexer) : Option (Piece × Lexer) :=
  if lx.cursor.hasInput then
    let m := munch lx.afterOperand lx.cursor
    some (lx.classify table m, lx.pass table m)
  else none

theorem rest_cursorAfter (lx : Lexer) (m : Munch) :
    (lx.cursorAfter m).rest = lx.cursor.rest.drop m.text.length := by
  unfold cursorAfter; split <;> simp

theorem offset_cursorAfter (lx : Lexer) (m : Munch) :
    (lx.cursorAfter m).offset = lx.cursor.offset + m.text.length := by
  unfold cursorAfter; split <;> simp

theorem next?_eq_none_iff {table : Spellings} {lx : Lexer} :
    lx.next? table = none ↔ lx.cursor.rest = [] := by
  unfold next?
  cases hrest : lx.cursor.rest <;> simp [Cursor.hasInput, hrest]

theorem length_rest_lt_of_next? {table : Spellings} {lx lx' : Lexer} {piece : Piece}
    (h : lx.next? table = some (piece, lx')) :
    lx'.cursor.rest.length < lx.cursor.rest.length := by
  unfold next? at h
  split at h
  · next hinput =>
    cases h
    have hpos := List.length_pos_iff.2 (text_munch_ne_nil lx.afterOperand hinput)
    have hle := (text_munch_prefix_rest lx.afterOperand hinput).length_le
    simp only [pass, rest_cursorAfter, List.length_drop]
    omega
  · cases h

/-- Fold `f` over the pieces that are left, in order. -/
def fold {σ : Type} (table : Spellings) (f : σ → Piece → σ) (s : σ) (lx : Lexer) : σ :=
  match _h : lx.next? table with
  | none => s
  | some (piece, lx') => fold table f (f s piece) lx'
termination_by lx.cursor.rest.length
decreasing_by exact length_rest_lt_of_next? _h

/-- The pieces that are left, in order. -/
def pieces (table : Spellings) (lx : Lexer) : List Piece :=
  match _h : lx.next? table with
  | none => []
  | some (piece, lx') => piece :: pieces table lx'
termination_by lx.cursor.rest.length
decreasing_by exact length_rest_lt_of_next? _h

theorem fold_eq_foldl {σ : Type} (table : Spellings) (f : σ → Piece → σ) (s : σ) (lx : Lexer) :
    lx.fold table f s = (lx.pieces table).foldl f s := by
  fun_induction fold table f s lx with
  | case1 s lx h => rw [pieces]; split <;> simp_all
  | case2 s lx piece lx' h ih => rw [pieces]; split <;> simp_all

end Lexer

end Lexis
