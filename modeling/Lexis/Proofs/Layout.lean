import Lexis.Proofs.Pieces

/-!
# How pieces lie in a text

The pieces of a source are laid out one behind the other, and nothing lies between them.

* `Layout`: pieces that make up a text, the first of which lies on the given line;
* **`layout_pieces`**: the pieces of the lexer make up the text that it stands before;
* `Lexeme.isNewline_of_isLexical`: lexical characters never make up the text of a newline;
* `IsMunch.of_head?`, `IsMunch.before_letter`: what may stand behind a piece;
* `Piece.line?`, `Layout.line?_bounds`: laid out pieces lie on the lines of their text.
-/

namespace Lexis

open Alphabet

/-- The line that a piece tells; a blank tells none. -/
def Piece.line? : Piece → Option UInt32
  | .lexeme l => some l.line
  | .rejected d => d.line
  | .blank => none

/-- The pieces make up the text, and each tells the line that it lies on. -/
inductive Layout : UInt32 → List Char → List Piece → Prop
  | done {line : UInt32} : Layout line [] []
  | lexeme {line : UInt32} {text cs : List Char} {ps : List Piece} {kind : Kind}
      (hne : text ≠ []) (hlexical : ∀ c ∈ text, isLexical c = true) (h : Layout line cs ps) :
      Layout line (text ++ cs) (.lexeme ⟨line, String.ofList text, kind⟩ :: ps)
  | newline {line : UInt32} {cs : List Char} {ps : List Piece} {code : Nat}
      (h : Layout (line + 1) cs ps) :
      Layout line ('\n' :: cs) (.lexeme ⟨line, newlineText, .spelling code⟩ :: ps)
  | blank {line : UInt32} {c : Char} {cs : List Char} {ps : List Piece} (hc : isBlank c = true)
      (h : Layout line cs ps) : Layout line (c :: cs) (.blank :: ps)
  | rejected {line : UInt32} {c : Char} {cs : List Char} {ps : List Piece} {fault : Fault}
      (hfault : isLegal c = false ∧ fault = .unknownSymbol c ∨
        c = '!' ∧ fault = .expectedSymbol "!" "=")
      (h : Layout line cs ps) : Layout line (c :: cs) (.rejected ⟨fault, some line⟩ :: ps)

/-! ## Lexical characters -/

theorem Alphabet.ne_newline_of_isLexical {c : Char} (h : isLexical c = true) : c ≠ '\n' := by
  rintro rfl
  exact absurd h (by decide)

theorem Alphabet.isBlank_iff {c : Char} : isBlank c = true ↔ c = ' ' ∨ c = '\t' := by
  simp [isBlank]

theorem Alphabet.ne_newline_of_isBlank {c : Char} (h : isBlank c = true) : c ≠ '\n' := by
  rintro rfl
  exact absurd h (by decide)

theorem Alphabet.isBlank_eq_false_of_isLexical {c : Char} (h : isLexical c = true) :
    isBlank c = false := by
  rw [← Bool.not_eq_true]
  intro hblank
  rcases isBlank_iff.1 hblank with rfl | rfl <;> exact absurd h (by decide)

theorem newline_not_mem_of_isLexical {text : List Char}
    (hlexical : ∀ c ∈ text, isLexical c = true) : '\n' ∉ text := fun hmem =>
  ne_newline_of_isLexical (hlexical _ hmem) rfl

theorem filter_not_isBlank_of_isLexical {text : List Char}
    (hlexical : ∀ c ∈ text, isLexical c = true) : text.filter (fun c => !isBlank c) = text := by
  refine List.filter_eq_self.2 fun c hc => ?_
  rw [isBlank_eq_false_of_isLexical (hlexical c hc), Bool.not_false]

theorem Lexeme.isNewline_of_isLexical {l : Lexeme} {text : List Char}
    (hlexical : ∀ c ∈ text, Alphabet.isLexical c = true) (h : l.text = String.ofList text) :
    l.isNewline = false := by
  apply decide_eq_false
  intro heq
  have hlist : text = ['¶'] := by
    rw [← String.toList_ofList (l := text), ← h, heq]
    rfl
  exact absurd (hlexical '¶' (by simp [hlist])) (by decide)

/-! ## The pieces of the lexer -/

theorem isLexical_of_isWord {w : List Char} (hw : IsWord w) : ∀ c ∈ w, isLexical c = true :=
  fun c hc => isLexical_of_isAlphanum (hw.2 c hc)

theorem isLexical_of_isNumeral {ds : List Char} (hds : IsNumeral ds) :
    ∀ c ∈ ds, isLexical c = true := fun c hc => isLexical_of_isDigit (hds.2 c hc)

theorem isLexical_of_colon {w : List Char} (hw : IsWord w) :
    ∀ c ∈ w ++ [':'], isLexical c = true :=
  List.forall_mem_append.2 ⟨isLexical_of_isWord hw, List.forall_mem_singleton.2 (by decide)⟩

theorem isLexical_of_minus {ds : List Char} (hds : IsNumeral ds) :
    ∀ c ∈ '-' :: ds, isLexical c = true :=
  List.forall_mem_cons.2 ⟨by decide, isLexical_of_isNumeral hds⟩

/-- Words, labels, numbers and operators. -/
def Shape.isLexical : Shape → Bool
  | .word | .label | .number | .operator => true
  | .newline | .blank | .rejected _ => false

namespace IsMunch

variable {afterOperand : Bool} {m : Munch} {rest : List Char}

/-- Lexemes but newlines are made up of lexical characters. -/
theorem forall_isLexical (h : IsMunch afterOperand m rest) (hm : m.shape.isLexical = true) :
    ∀ c ∈ m.text, isLexical c = true := by
  cases h with
  | label hw => exact isLexical_of_colon hw
  | word hw => exact isLexical_of_isWord hw
  | numeral hds => exact isLexical_of_isNumeral hds
  | negative hds => exact isLexical_of_minus hds
  | minus => exact List.all_eq_true.1 (by decide)
  | solo hc =>
    intro c hmem
    obtain rfl := List.mem_singleton.1 hmem
    simp [isLexical, hc]
  | joined hd => simp [isLexical_of_mem_followers hd]
  | single hc =>
    obtain ⟨d, hd⟩ := List.exists_mem_of_ne_nil _ hc
    simp [(isLexical_of_mem_followers hd).1]
  | unequal => exact List.all_eq_true.1 (by decide)
  | bang | newline | blank | illegal => cases hm

/-- No piece but the newline holds one. -/
theorem newline_not_mem (h : IsMunch afterOperand m rest) (hm : m.shape ≠ .newline) :
    '\n' ∉ m.text := by
  have hlexical := h.forall_isLexical
  cases h with
  | newline => exact absurd rfl hm
  | blank hc => simpa using (ne_newline_of_isBlank hc).symm
  | bang => decide
  | illegal hc =>
    intro hmem
    obtain rfl := List.mem_singleton.1 hmem
    exact absurd hc (by decide)
  | _ => exact newline_not_mem_of_isLexical (hlexical rfl)

/-- Of the text behind a piece only the first character matters, and only if a lexeme may hold it. -/
theorem of_head? (h : IsMunch afterOperand m rest) {rest' : List Char}
    (hrest : ∀ c ∈ rest'.head?, isLexical c = true → rest.head? = some c) :
    IsMunch afterOperand m rest' := by
  have hends {p : Char → Bool} (hp : ∀ c, p c = true → isLexical c = true) (hend : Ends p rest) :
      Ends p rest' := by
    intro c hc
    rw [← Bool.not_eq_true]
    intro hpc
    exact absurd (hend c (hrest c hc (hp c hpc))) (by simp [hpc])
  have hne {c : Char} (hc : isLexical c = true) (hhead : rest.head? ≠ some c) :
      rest'.head? ≠ some c := fun hhead' => hhead (hrest c hhead' hc)
  cases h with
  | label hw => exact .label hw
  | word hw hend hcolon =>
    exact .word hw (hends (fun _ => isLexical_of_isAlphanum) hend) (hne (by decide) hcolon)
  | numeral hds hend => exact .numeral hds (hends (fun _ => isLexical_of_isDigit) hend)
  | negative hds hend hoperand =>
    exact .negative hds (hends (fun _ => isLexical_of_isDigit) hend) hoperand
  | minus h => exact .minus (h.imp_right (hends fun _ => isLexical_of_isDigit))
  | solo hc => exact .solo hc
  | joined hd => exact .joined hd
  | single hc hend =>
    refine .single hc fun d hd hmem => ?_
    exact hend d (hrest d hd (isLexical_of_mem_followers hmem).2) hmem
  | unequal => exact .unequal
  | bang h => exact .bang (hne (by decide) h)
  | newline => exact .newline
  | blank hc => exact .blank hc
  | illegal hc => exact .illegal hc

/-- A letter joins only with a word before it. -/
theorem before_letter (h : IsMunch afterOperand m rest) (hm : m.shape ≠ .word) {c : Char}
    (hc : c.isAlpha = true) (cs : List Char) : IsMunch afterOperand m (c :: cs) := by
  have hdigit : Ends Char.isDigit (c :: cs) := by
    intro d hd
    obtain rfl : c = d := by simpa using hd
    by_contra hdigit
    rw [Bool.not_eq_false] at hdigit
    rw [isAlpha_eq_false_of_isDigit hdigit] at hc
    cases hc
  cases h with
  | label hw => exact .label hw
  | word => exact absurd rfl hm
  | numeral hds => exact .numeral hds hdigit
  | negative hds _ hoperand => exact .negative hds hdigit hoperand
  | minus => exact .minus (.inr hdigit)
  | solo hc => exact .solo hc
  | joined hd => exact .joined hd
  | single hne =>
    refine .single hne fun d hd hmem => ?_
    obtain rfl : c = d := by simpa using hd
    rcases eq_of_mem_followers hmem with ⟨-, rfl⟩ | ⟨-, rfl⟩ | ⟨-, rfl⟩ | ⟨-, rfl⟩ | ⟨-, rfl⟩
    all_goals exact absurd hc (by decide)
  | unequal => exact .unequal
  | bang =>
    refine .bang fun hhead => ?_
    obtain rfl : c = '=' := by simpa using hhead
    exact absurd hc (by decide)
  | newline => exact .newline
  | blank hc => exact .blank hc
  | illegal hc => exact .illegal hc

/-- A piece ends as many lines as it holds newlines. -/
theorem line_pass (h : IsMunch afterOperand m rest) (table : Spellings) (lx : Lexer) :
    (lx.pass table m).cursor.line = lx.cursor.line + UInt32.ofNat (m.text.count '\n') := by
  rw [Lexer.line_pass]
  split
  · next hm =>
    have hcount : m.text.count '\n' = 1 := by cases h <;> first | rfl | cases hm
    rw [hcount]
    rfl
  · next hm =>
    rw [List.count_eq_zero_of_not_mem (h.newline_not_mem hm)]
    simp

end IsMunch

/-- **The pieces that are left make up the text that is left**, from the current line on. -/
theorem layout_pieces (table : Spellings) (lx : Lexer) :
    Layout lx.cursor.line lx.cursor.rest (lx.pieces table) := by
  induction lx using Lexer.munch_induction table with
  | done lx h =>
    rw [h, Lexer.pieces_of_rest_eq_nil h]
    exact .done
  | step lx m rest h hrest ih =>
    rw [Lexer.rest_pass hrest] at ih
    rw [hrest, Lexer.pieces_of_isMunch h hrest]
    have hne := h.text_ne_nil
    have hlexical := h.forall_isLexical
    cases h with
    | bang => exact .rejected (.inr ⟨rfl, rfl⟩) ih
    | newline => exact .newline ih
    | blank hc => exact .blank hc ih
    | illegal hc => exact .rejected (.inl ⟨hc, rfl⟩) ih
    | _ => exact .lexeme hne (hlexical rfl) ih

/-! ## Lines of laid out pieces -/

theorem count_newline_append {text : List Char} (htext : '\n' ∉ text) (cs : List Char) :
    (text ++ cs).count '\n' = cs.count '\n' := by
  rw [List.count_append, List.count_eq_zero_of_not_mem htext, Nat.zero_add]

namespace Layout

variable {line : UInt32} {cs : List Char} {ps : List Piece}

theorem count_newline_cons {c : Char} (hc : c ≠ '\n') (cs : List Char) :
    (c :: cs).count '\n' = cs.count '\n' :=
  List.count_cons_of_ne hc

theorem ne_newline_of_fault {c : Char} {fault : Fault}
    (hfault : isLegal c = false ∧ fault = .unknownSymbol c ∨
      c = '!' ∧ fault = .expectedSymbol "!" "=") : c ≠ '\n' := by
  rintro rfl
  rcases hfault with ⟨hc, -⟩ | ⟨hc, -⟩ <;> exact absurd hc (by decide)

theorem toNat_add_one {n : Nat} (h : line.toNat + (n + 1) < 2 ^ 32) :
    (line + 1).toNat = line.toNat + 1 := by
  rw [UInt32.toNat_add, UInt32.toNat_one, Nat.mod_eq_of_lt (by omega)]

/-- The pieces lie on the lines of the text. -/
theorem line?_bounds (h : Layout line cs ps) (hfit : line.toNat + cs.count '\n' < 2 ^ 32) :
    ∀ p ∈ ps, ∀ n ∈ p.line?, line.toNat ≤ n.toNat ∧ n.toNat ≤ line.toNat + cs.count '\n' := by
  induction h with
  | done => simp
  | lexeme hne hlexical h ih =>
    rw [count_newline_append (newline_not_mem_of_isLexical hlexical)] at hfit ⊢
    simpa [Piece.line?] using ih hfit
  | newline h ih =>
    rw [List.count_cons_self] at hfit ⊢
    have hsucc := toNat_add_one hfit
    intro p hp n hn
    rcases List.mem_cons.1 hp with rfl | hp
    · obtain rfl := Option.mem_some_iff.1 hn
      exact ⟨Nat.le_refl _, Nat.le_add_right ..⟩
    · have := ih (by omega) p hp n hn
      omega
  | blank hc h ih =>
    rw [count_newline_cons (ne_newline_of_isBlank hc)] at hfit ⊢
    simpa [Piece.line?] using ih hfit
  | rejected hfault h ih =>
    rw [count_newline_cons (ne_newline_of_fault hfault)] at hfit ⊢
    simpa [Piece.line?] using ih hfit

/-- The lexemes lie on the lines of the text. -/
theorem line_bounds (h : Layout line cs ps) (hfit : line.toNat + cs.count '\n' < 2 ^ 32) :
    ∀ l ∈ Piece.lexemes ps,
      line.toNat ≤ l.line.toNat ∧ l.line.toNat ≤ line.toNat + cs.count '\n' := fun l hl =>
  h.line?_bounds hfit (.lexeme l) (Piece.mem_lexemes_iff.1 hl) l.line rfl

/-- A rejected piece tells its line. -/
theorem isSome_line (h : Layout line cs ps) {d : Diagnostic} (hd : .rejected d ∈ ps) :
    d.line.isSome = true := by
  induction h with
  | done => cases hd
  | rejected hfault h ih =>
    rcases List.mem_cons.1 hd with hd | hd
    · cases hd
      rfl
    · exact ih hd
  | lexeme _ _ h ih => exact ih (by simpa using hd)
  | newline h ih => exact ih (by simpa using hd)
  | blank _ h ih => exact ih (by simpa using hd)

end Layout

end Lexis
