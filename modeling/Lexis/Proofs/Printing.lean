import Lexis.Proofs.Draft
import Lexis.Proofs.Layout
import Lexis.Proofs.Lockstep

/-!
# Printing an analysis

The tokens of an analysis, written one after the other with a blank between any two of them, are a
source of the same analysis.

* `Lexeme.written`, `Analysis.print`: how a lexeme and an analysis are written;
* `IsMunch.of_separated`: a piece that is a lexeme may be taken where a blank or nothing follows;
* `Lexer.pieces_trail`: a lexer before written lexemes finds them again;
* **`analyzeWith_print`**: the analysis of a printed analysis is that analysis.
-/

namespace Lexis

open Alphabet

/-- The lexeme as it stands in a source. -/
def Lexeme.written (l : Lexeme) : String := if l.isNewline then "\n" else l.text

/-- The tokens of the analysis as a source, with a blank between any two of them. -/
def Analysis.print (a : Analysis) : String :=
  " ".intercalate (a.tokens.map fun t => t.written)

/-- The lexemes as they stand in a source, each behind a blank. -/
def trail (ls : List Lexeme) : List Char := ls.flatMap fun l => ' ' :: l.written.toList

theorem trail_cons (l : Lexeme) (ls : List Lexeme) :
    trail (l :: ls) = ' ' :: (l.written.toList ++ trail ls) := rfl

theorem eq_space_of_mem_head?_trail (ls : List Lexeme) : ∀ c ∈ (trail ls).head?, c = ' ' := by
  cases ls with
  | nil => simp [trail]
  | cons l ls => simp [trail_cons]

theorem space_cons_toList_intercalate (l : Lexeme) (ls : List Lexeme) :
    ' ' :: (" ".intercalate ((l :: ls).map Lexeme.written)).toList = trail (l :: ls) := by
  rw [String.toList_intercalate, trail_cons]
  congr 1
  induction ls generalizing l with
  | nil => simp [trail]
  | cons k ls ih =>
    rw [List.map_cons, List.map_cons, List.map_cons, List.map_cons, List.intercalate_cons_cons,
      trail_cons, ← ih k]
    simp

/-! ## Lexemes behind blanks -/

namespace IsMunch

variable {afterOperand : Bool} {m : Munch} {rest : List Char}

/-- What is a piece before some rest is one before a blank or the end of the text. -/
theorem of_separated (h : IsMunch afterOperand m rest) {rest' : List Char}
    (hrest : ∀ c ∈ rest'.head?, c = ' ') : IsMunch afterOperand m rest' := by
  refine h.of_head? fun c hc hlexical => ?_
  rw [hrest c hc] at hlexical
  exact absurd hlexical (by decide)

/-- A piece is rejected, a blank, or a lexeme that is written as it stands. -/
theorem classify_cases (h : IsMunch afterOperand m rest) (table : Spellings) (lx : Lexer) :
    (∃ d, lx.classify table m = .rejected d) ∨ (∃ c, m = ⟨.blank, [c]⟩) ∨
      ∃ l, lx.classify table m = .lexeme l ∧ l.written.toList = m.text := by
  have hlexical := h.forall_isLexical
  have hwritten (hm : m.shape.isLexical = true) (line : UInt32) (kind : Kind) :
      (Lexeme.written ⟨line, String.ofList m.text, kind⟩).toList = m.text := by
    have hne : (Lexeme.mk line (String.ofList m.text) kind).isNewline = false :=
      Lexeme.isNewline_of_isLexical (hlexical hm) rfl
    rw [Lexeme.written, hne]
    exact String.toList_ofList
  cases h with
  | bang => exact .inl ⟨_, rfl⟩
  | illegal => exact .inl ⟨_, rfl⟩
  | blank => exact .inr (.inl ⟨_, rfl⟩)
  | newline =>
    exact .inr (.inr ⟨_, rfl, by simp [Lexeme.written, Lexeme.isNewline]⟩)
  | _ => exact .inr (.inr ⟨_, rfl, hwritten rfl _ _⟩)

end IsMunch

namespace Lexer

variable {table : Spellings}

/-- The first piece of a text that begins with a space. -/
theorem pieces_of_space {lx : Lexer} {rest : List Char} (hrest : lx.cursor.rest = ' ' :: rest) :
    lx.pieces table = .blank :: (lx.pass table ⟨.blank, [' ']⟩).pieces table :=
  pieces_of_isMunch (.blank rfl) hrest

/-- **A lexer before written lexemes finds them again**, if it is in step with the one that found
them. -/
theorem pieces_trail {lx lx' : Lexer} (h : InStep 0 lx lx')
    (hclean : ∀ d, .rejected d ∉ lx.pieces table)
    (hrest : lx'.cursor.rest = trail (Piece.lexemes (lx.pieces table))) :
    lx'.pieces table = (Piece.lexemes (lx.pieces table)).flatMap fun l => [.blank, .lexeme l] := by
  induction lx using munch_induction table generalizing lx' with
  | done lx hnil =>
    rw [pieces_of_rest_eq_nil hnil] at hrest ⊢
    exact pieces_of_rest_eq_nil hrest
  | step lx m rest hm hcut ih =>
    rw [pieces_of_isMunch hm hcut] at hclean hrest ⊢
    have htail : ∀ d, .rejected d ∉ (lx.pass table m).pieces table :=
      fun d hd => hclean d (List.mem_cons_of_mem _ hd)
    rcases hm.classify_cases table lx with ⟨d, hd⟩ | ⟨c, rfl⟩ | ⟨l, hl, hwritten⟩
    · exact absurd (hd ▸ List.mem_cons_self ..) (hclean d)
    · exact ih (h.pass_blank_left table) htail hrest
    · rw [hl, Piece.lexemes_lexeme_cons, trail_cons, hwritten] at hrest
      rw [hl, Piece.lexemes_lexeme_cons, List.flatMap_cons, pieces_of_space hrest]
      -- behind the blank the second lexer takes the same piece as the first one
      have hblank := h.pass_blank_right table (c := ' ')
      have hcut' : (lx'.pass table ⟨.blank, [' ']⟩).cursor.rest =
          m.text ++ trail (Piece.lexemes ((lx.pass table m).pieces table)) := rest_pass hrest
      have hm' := hm.of_separated (eq_space_of_mem_head?_trail
        (Piece.lexemes ((lx.pass table m).pieces table)))
      rw [← hblank.afterOperand] at hm'
      rw [pieces_of_isMunch hm' hcut', hblank.classify, hl,
        ih (hblank.pass table m) htail (rest_pass hcut')]
      simp

end Lexer

/-! ## Drafts of sources without rejected characters -/

/-- Without rejected characters only the lexemes matter. -/
theorem Draft.foldl_add_eq {ps : List Piece} (hclean : ∀ d, .rejected d ∉ ps) (d : Draft) :
    ps.foldl add d = (Piece.lexemes ps).foldl addLexeme d := by
  induction ps generalizing d with
  | nil => rfl
  | cons p ps ih =>
    have htail := ih fun e he => hclean e (List.mem_cons_of_mem _ he)
    cases p with
    | lexeme l => rw [Piece.lexemes_lexeme_cons, List.foldl_cons, List.foldl_cons, htail]; rfl
    | rejected e => exact absurd (List.mem_cons_self ..) (hclean e)
    | blank => rw [Piece.lexemes_blank_cons, List.foldl_cons, htail]; rfl

theorem Piece.lexemes_flatMap_blank (ls : List Lexeme) :
    lexemes (ls.flatMap fun l => [.blank, .lexeme l]) = ls := by
  induction ls with
  | nil => rfl
  | cons l ls ih => simp [ih]

/-! ## Printed analyses -/

/-- A space before a source is a piece of its own. -/
theorem Lexer.pieces_space_append (table : Spellings) (source : String) :
    (ofSource (" " ++ source)).pieces table = .blank :: (ofSource source).pieces table := by
  have hrest : (ofSource (" " ++ source)).cursor.rest = ' ' :: source.toList :=
    String.toList_append
  have hstep : InStep 0 (ofSource source) ((ofSource (" " ++ source)).pass table ⟨.blank, [' ']⟩) :=
    ⟨rfl, rfl, rfl⟩
  rw [pieces_of_space hrest, hstep.pieces_eq table (rest_pass hrest), Piece.map_shift_zero]

/-- The pieces of written lexemes, if there are any. -/
theorem Lexer.pieces_written {table : Spellings} {source : String}
    (hclean : ∀ d, .rejected d ∉ (ofSource source).pieces table) {l : Lexeme} {ls : List Lexeme}
    (hls : Piece.lexemes ((ofSource source).pieces table) = l :: ls) :
    .blank :: (ofSource (" ".intercalate ((l :: ls).map Lexeme.written))).pieces table =
      (l :: ls).flatMap fun l => [.blank, .lexeme l] := by
  rw [← pieces_space_append, ← hls]
  refine pieces_trail ⟨rfl, rfl, rfl⟩ hclean ?_
  rw [hls, ← space_cons_toList_intercalate]
  exact String.toList_append

theorem Analysis.print_eq (a : Analysis) :
    a.print = " ".intercalate (a.lexemes.map Lexeme.written) := by
  rw [print, lexemes, List.map_map]
  rfl

theorem pieces_print {table : Spellings} {source : String} {a : Analysis}
    (h : analyzeWith table source = .ok a) :
    Piece.lexemes ((Lexer.ofSource a.print).pieces table) = a.lexemes ∧
      ∀ d, .rejected d ∉ (Lexer.ofSource a.print).pieces table := by
  have hclean := Draft.rejected_not_mem_pieces h
  have hlexemes : Piece.lexemes ((Lexer.ofSource source).pieces table) = a.lexemes := by
    rw [← Draft.lexemes_scan, Draft.lexemes_scan_of_ok h]
  rw [a.print_eq]
  cases hls : a.lexemes with
  | nil =>
    have hnil : (Lexer.ofSource (" ".intercalate ([].map Lexeme.written))).cursor.rest = [] := rfl
    rw [Lexer.pieces_of_rest_eq_nil hnil]
    simp
  | cons l ls =>
    have hpieces := Lexer.pieces_written hclean (hlexemes.trans hls)
    constructor
    · rw [← Piece.lexemes_blank_cons, hpieces, Piece.lexemes_flatMap_blank]
    · intro d hd
      have hmem := List.mem_cons_of_mem Piece.blank hd
      rw [hpieces] at hmem
      simp at hmem

/-- **Printing an analysis and analyzing the result gives the analysis back**, with all its numbers,
lines, kinds and indices. -/
theorem analyzeWith_print {table : Spellings} {source : String} {a : Analysis}
    (h : analyzeWith table source = .ok a) : analyzeWith table a.print = .ok a := by
  obtain ⟨hlexemes, hclean⟩ := pieces_print h
  have hscan : Draft.scan table a.print = Draft.scan table source := by
    rw [Draft.scan_eq_foldl, Draft.scan_eq_foldl, Draft.foldl_add_eq hclean,
      Draft.foldl_add_eq (Draft.rejected_not_mem_pieces h), hlexemes, ← Draft.lexemes_scan_of_ok h,
      Draft.lexemes_scan]
  rw [analyzeWith, hscan]
  exact h

/-- Signs, operators of two characters and labels that stand without blanks. -/
theorem analyzeWith_print_of_dense :
    ∃ a, analyzeWith .standard "int a\nL:a=-1-2>=a" = .ok a ∧
      a.print = "int a \n L: a = -1 - 2 >= a" ∧
      analyzeWith .standard "int a \n L: a = -1 - 2 >= a" = .ok a := by
  have h : ∃ a, analyzeWith .standard "int a\nL:a=-1-2>=a" = .ok a ∧
      a.print = "int a \n L: a = -1 - 2 >= a" := ⟨_, by cbv, by cbv⟩
  obtain ⟨a, ha, hprint⟩ := h
  exact ⟨a, ha, hprint, hprint ▸ analyzeWith_print ha⟩

end Lexis
