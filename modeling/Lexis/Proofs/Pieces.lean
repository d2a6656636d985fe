import Lexis.Lexer
import Lexis.Proofs.Munch

/-!
# The pieces of a source

How the list of pieces is made up, piece by piece.

* `Lexer.pieces_of_rest_eq_nil`, `Lexer.pieces_of_isMunch`: at the end of the text nothing is left;
  elsewhere the first piece is the longest one, and the lexer behind it gives the others;
* `Lexer.munch_induction`: what holds at the end of a text, and before a longest piece if it holds
  behind it, holds of all lexers; `Lexer.forall_mem_pieces` is the case of a property of pieces;
* `Piece.lexemes`: the lexemes among the pieces;
* `Fault.Topic`: what a fault is about; the lexer itself finds faults of characters only.
-/

namespace Lexis

namespace Lexer

variable {table : Spellings} {lx : Lexer} {m : Munch} {rest : List Char}

theorem rest_pass (hrest : lx.cursor.rest = m.text ++ rest) :
    (lx.pass table m).cursor.rest = rest := by
  rw [pass, rest_cursorAfter, hrest, List.drop_left]

theorem line_pass :
    (lx.pass table m).cursor.line =
      if m.shape = .newline then lx.cursor.line + 1 else lx.cursor.line := by
  rw [pass, cursorAfter]
  split
  · next h => rw [if_pos h]; rfl
  · next h => rw [if_neg h]; rfl

theorem pieces_of_rest_eq_nil (h : lx.cursor.rest = []) : lx.pieces table = [] := by
  rw [pieces]
  split
  · rfl
  · next hnext => rw [next?_eq_none_iff.2 h] at hnext; cases hnext

theorem next?_of_isMunch (h : IsMunch lx.afterOperand m rest)
    (hrest : lx.cursor.rest = m.text ++ rest) :
    lx.next? table = some (lx.classify table m, lx.pass table m) := by
  have hinput : lx.cursor.hasInput = true := by
    refine Cursor.hasInput_iff.2 fun hnil => h.text_ne_nil ?_
    rw [hrest] at hnil
    exact (List.append_eq_nil_iff.1 hnil).1
  rw [next?, if_pos hinput, h.munch_eq hrest]

theorem pieces_of_isMunch (h : IsMunch lx.afterOperand m rest)
    (hrest : lx.cursor.rest = m.text ++ rest) :
    lx.pieces table = lx.classify table m :: (lx.pass table m).pieces table := by
  rw [pieces]
  split
  · next hnone => rw [next?_of_isMunch h hrest] at hnone; cases hnone
  · next hsome => rw [next?_of_isMunch h hrest] at hsome; cases hsome; rfl

/-- What holds where no text is left, and before a longest piece if it holds behind it, holds of
every lexer. -/
@[elab_as_elim]
theorem munch_induction (table : Spellings) {motive : Lexer → Prop}
    (done : ∀ lx, lx.cursor.rest = [] → motive lx)
    (step : ∀ lx m rest, IsMunch lx.afterOperand m rest → lx.cursor.rest = m.text ++ rest →
      motive (lx.pass table m) → motive lx) (lx : Lexer) : motive lx := by
  by_cases hinput : lx.cursor.rest = []
  · exact done lx hinput
  · have h := isMunch_munch lx.afterOperand (Cursor.hasInput_iff.2 hinput)
    obtain ⟨rest, hrest⟩ :=
      text_munch_prefix_rest lx.afterOperand (Cursor.hasInput_iff.2 hinput)
    rw [← hrest, List.drop_left] at h
    have hlt : (lx.pass table (munch lx.afterOperand lx.cursor)).cursor.rest.length
        < lx.cursor.rest.length := by
      have hpos := List.length_pos_iff.2 h.text_ne_nil
      have hlen := congrArg List.length hrest
      rw [List.length_append] at hlen
      rw [rest_pass hrest.symm]
      omega
    exact step lx _ rest h hrest.symm (munch_induction table done step _)
termination_by lx.cursor.rest.length

/-- What holds of all longest pieces holds of all pieces that a lexer finds. -/
theorem forall_mem_pieces {P : Piece → Prop} (table : Spellings)
    (h : ∀ (lx : Lexer) (m : Munch) (rest : List Char), IsMunch lx.afterOperand m rest →
      P (lx.classify table m)) (lx : Lexer) : ∀ p ∈ lx.pieces table, P p := by
  induction lx using munch_induction table with
  | done lx hnil => simp [pieces_of_rest_eq_nil hnil]
  | step lx m rest hm hcut ih =>
    rw [pieces_of_isMunch hm hcut, List.forall_mem_cons]
    exact ⟨h lx m rest hm, ih⟩

end Lexer

/-! ## Lexemes among pieces -/

/-- The lexemes among the pieces, in order. -/
def Piece.lexemes (ps : List Piece) : List Lexeme := ps.filterMap lexeme?

namespace Piece

variable (l : Lexeme) (d : Diagnostic) (ps : List Piece)

@[simp] theorem lexemes_nil : lexemes [] = [] := rfl

@[simp] theorem lexemes_lexeme_cons : lexemes (.lexeme l :: ps) = l :: lexemes ps := by
  simp [lexemes, lexeme?]

@[simp] theorem lexemes_rejected_cons : lexemes (.rejected d :: ps) = lexemes ps := by
  simp [lexemes, lexeme?, List.filterMap_cons]

@[simp] theorem lexemes_blank_cons : lexemes (.blank :: ps) = lexemes ps := by
  simp [lexemes, lexeme?, List.filterMap_cons]

variable {l ps} in
theorem mem_lexemes_iff : l ∈ lexemes ps ↔ .lexeme l ∈ ps := by
  rw [lexemes, List.mem_filterMap]
  constructor
  · rintro ⟨p, hp, hl⟩
    cases p with
    | lexeme k =>
      obtain rfl := Option.some.inj hl
      exact hp
    | _ => cases hl
  · exact fun h => ⟨_, h, rfl⟩

theorem lexemes_append (qs : List Piece) : lexemes (ps ++ qs) = lexemes ps ++ lexemes qs :=
  List.filterMap_append

end Piece

/-! ## Faults of characters -/

/-- What a fault is about. -/
inductive Fault.Topic
  | character
  | variable
  | label
  /-- A label that the whole program does not declare. -/
  | program
  deriving DecidableEq, Repr

/-- What the fault is about. -/
def Fault.topic : Fault → Fault.Topic
  | .unknownSymbol _ | .expectedSymbol _ _ => .character
  | .variableRedeclared _ | .variableUndeclared _ => .variable
  | .labelReferencedAgain _ | .labelRedeclared _ => .label
  | .labelNeverDeclared _ => .program

theorem IsMunch.topic_of_classify {afterOperand : Bool} {m : Munch} {rest : List Char}
    {table : Spellings} {lx : Lexer} {d : Diagnostic} (h : IsMunch afterOperand m rest)
    (hd : lx.classify table m = .rejected d) : d.fault.topic = .character := by
  cases h <;> cases hd <;> rfl

theorem Lexer.topic_of_rejected_mem_pieces (table : Spellings) (lx : Lexer) {d : Diagnostic}
    (hd : .rejected d ∈ lx.pieces table) : d.fault.topic = .character := by
  refine forall_mem_pieces (P := fun p => ∀ d, p = .rejected d → d.fault.topic = .character) table
    (fun lx m rest h d hd => ?_) lx _ hd d rfl
  exact h.topic_of_classify hd

end Lexis
