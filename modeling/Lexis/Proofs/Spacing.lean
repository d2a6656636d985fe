import Lexis.Proofs.Layout
import Lexis.Proofs.Lockstep
import Lexis.Proofs.Verdict

/-!
# Blanks only separate

How many blanks stand between two lexemes, and whether any stand at the ends of a line, does not
matter to the analysis of a source.

* `collapseBlanks`, `trimLines`, `respace`: each run of blanks as one space, and none at the ends of
  the lines;
* `Respaces`: a rewriting that touches blanks only and never joins what they separate, with
  `respaces_collapseBlanks` and `respaces_trimLines`;
* `Piece.dropBlanks`, **`Respaces.pieces_eq`**: in a rewritten text the lexer finds the same pieces
  but blanks;
* **`analyzeWith_eq_of_respace_eq`**: sources with one spacing have one outcome.
-/

namespace Lexis

open Alphabet

/-! ## The spacing of a text -/

/-- The text with one space in the place of each run of blanks. -/
def collapseBlanks : List Char → List Char
  | [] => []
  | c :: cs =>
    if isBlank c then
      if cs.head?.any isBlank then collapseBlanks cs else ' ' :: collapseBlanks cs
    else c :: collapseBlanks cs

/-- A line begins or ends here: there is a newline, or no more text. -/
def isLineEnd (c? : Option Char) : Bool := c?.all (· = '\n')

/-- The text without the blanks next to the ends of lines, where `before` is the character that
stands before the text. -/
def trimLines (before : Option Char) : List Char → List Char
  | [] => []
  | c :: cs =>
    if isBlank c && (isLineEnd before || isLineEnd cs.head?) then trimLines (some c) cs
    else c :: trimLines (some c) cs

/-- The source with no more blanks than one between two other characters of a line. -/
def respace (source : String) : String :=
  String.ofList (trimLines none (collapseBlanks source.toList))

example : respace " int\ta \n\t\n\t a  =- 1 " = "int a\n\na =- 1" := by cbv

/-! ## Rewritings of blanks -/

/-- The rewriting, which may look at the character before the text, drops or replaces blanks and
nothing else; behind a character of the same line a blank or the end of the line is left. -/
structure Respaces (f : Option Char → List Char → List Char) : Prop where
  nil : ∀ before, f before [] = []
  keep : ∀ {before c cs}, isBlank c = false → f before (c :: cs) = c :: f (some c) cs
  blank : ∀ {before c cs}, isBlank c = true →
    f before (c :: cs) = f (some c) cs ∨
      ∃ b, isBlank b = true ∧ f before (c :: cs) = b :: f (some c) cs
  separates : ∀ {before c cs}, isBlank c = true → isLineEnd before = false →
    ∀ d ∈ (f before (c :: cs)).head?, isLexical d = false

theorem isLexical_eq_false_of_isBlank {c : Char} (h : isBlank c = true) : isLexical c = false := by
  rcases isBlank_iff.1 h with rfl | rfl <;> decide

theorem head?_collapseBlanks {c : Char} (hc : isBlank c = true) (cs : List Char) :
    (collapseBlanks (c :: cs)).head? = some ' ' := by
  induction cs generalizing c with
  | nil => simp [collapseBlanks, hc]
  | cons d ds ih =>
    rw [collapseBlanks, if_pos hc]
    split
    · next hd => exact ih hd
    · rfl

theorem respaces_collapseBlanks : Respaces fun _ => collapseBlanks where
  nil _ := rfl
  keep hc := by rw [collapseBlanks, hc]; rfl
  blank hc := by
    rw [collapseBlanks, if_pos hc]
    split
    · exact .inl rfl
    · exact .inr ⟨' ', rfl, rfl⟩
  separates {_ c cs} hc _ d hd := by
    rw [head?_collapseBlanks hc] at hd
    obtain rfl := Option.mem_some_iff.1 hd
    decide

theorem respaces_trimLines : Respaces trimLines where
  nil _ := rfl
  keep hc := by rw [trimLines, hc]; rfl
  blank {_ c _} hc := by
    rw [trimLines]
    split
    · exact .inl rfl
    · exact .inr ⟨c, hc, rfl⟩
  separates {before c cs} hc hbefore d hd := by
    rw [trimLines, hc, hbefore, Bool.true_and, Bool.false_or] at hd
    split at hd
    · next hend =>
      -- the blank is left out before the end of its line only
      cases cs with
      | nil => cases hd
      | cons e es =>
        obtain rfl : e = '\n' := by simpa [isLineEnd] using hend
        obtain rfl := Option.mem_some_iff.1 hd
        decide
    · obtain rfl := Option.mem_some_iff.1 hd
      exact isLexical_eq_false_of_isBlank hc

theorem IsMunch.isBlank_of_mem {afterOperand : Bool} {m : Munch} {rest : List Char}
    (h : IsMunch afterOperand m rest) (hm : m.shape ≠ .blank) :
    ∀ c ∈ m.text, isBlank c = false := by
  have hlexical := h.forall_isLexical
  cases h with
  | bang | newline => exact List.forall_mem_singleton.2 rfl
  | blank => exact absurd rfl hm
  | illegal hc =>
    refine List.forall_mem_singleton.2 ?_
    rw [isLegal, Bool.or_eq_false_iff, Bool.or_eq_false_iff] at hc
    exact hc.1.2
  | _ => exact fun c hc => isBlank_eq_false_of_isLexical (hlexical rfl c hc)

namespace Respaces

variable {f : Option Char → List Char → List Char} (hf : Respaces f)
include hf

theorem append_eq {text : List Char} (hne : text ≠ []) (htext : ∀ c ∈ text, isBlank c = false)
    (before : Option Char) (rest : List Char) :
    f before (text ++ rest) = text ++ f text.getLast? rest := by
  induction text generalizing before with
  | nil => exact absurd rfl hne
  | cons c cs ih =>
    rw [List.forall_mem_cons] at htext
    rw [List.cons_append, hf.keep htext.1]
    cases cs with
    | nil => rfl
    | cons d ds => rw [ih (List.cons_ne_nil d ds) htext.2, List.getLast?_cons_cons]; rfl

/-- Behind a character of the same line, what comes next is what came next before, or nothing that
a lexeme may hold. -/
theorem head?_eq {before : Option Char} (hbefore : isLineEnd before = false) {rest : List Char} :
    ∀ c ∈ (f before rest).head?, isLexical c = true → rest.head? = some c := by
  intro c hc hlexical
  cases rest with
  | nil => rw [hf.nil] at hc; cases hc
  | cons d ds =>
    cases hd : isBlank d with
    | true => rw [hf.separates hd hbefore c hc] at hlexical; cases hlexical
    | false => rw [hf.keep hd] at hc; exact hc

/-- A piece but a blank stays a longest one. -/
theorem isMunch {afterOperand : Bool} {m : Munch} {rest : List Char}
    (h : IsMunch afterOperand m rest) : IsMunch afterOperand m (f m.text.getLast? rest) := by
  by_cases hm : m.shape = .newline
  · cases h with
    | newline => exact .newline
    | _ => cases hm
  · refine h.of_head? (hf.head?_eq ?_)
    have hlast := List.getLast?_eq_some_getLast h.text_ne_nil
    have hne : m.text.getLast h.text_ne_nil ≠ '\n' := fun heq =>
      h.newline_not_mem hm (heq ▸ List.getLast_mem h.text_ne_nil)
    rw [hlast]
    exact decide_eq_false hne

end Respaces

/-! ## Pieces but blanks -/

/-- The pieces that are no blanks. -/
def Piece.dropBlanks (ps : List Piece) : List Piece := ps.filter (· ≠ .blank)

namespace Piece

@[simp] theorem dropBlanks_blank_cons (ps : List Piece) :
    dropBlanks (.blank :: ps) = dropBlanks ps := rfl

@[simp] theorem dropBlanks_lexeme_cons (l : Lexeme) (ps : List Piece) :
    dropBlanks (.lexeme l :: ps) = .lexeme l :: dropBlanks ps := rfl

@[simp] theorem dropBlanks_rejected_cons (d : Diagnostic) (ps : List Piece) :
    dropBlanks (.rejected d :: ps) = .rejected d :: dropBlanks ps := rfl

theorem dropBlanks_cons {p : Piece} (hp : p ≠ .blank) (ps : List Piece) :
    dropBlanks (p :: ps) = p :: dropBlanks ps :=
  List.filter_cons_of_pos (decide_eq_true hp)

theorem lexemes_dropBlanks (ps : List Piece) : lexemes (dropBlanks ps) = lexemes ps := by
  induction ps with
  | nil => rfl
  | cons p ps ih => cases p <;> simp [ih]

end Piece

theorem inspect_dropBlanks (before : List Lexeme) (ps : List Piece) :
    inspect before (Piece.dropBlanks ps) = inspect before ps := by
  induction ps generalizing before with
  | nil => rfl
  | cons p ps ih =>
    cases p with
    | lexeme l => rw [Piece.dropBlanks_lexeme_cons, inspect, inspect, ih]
    | rejected d => rw [Piece.dropBlanks_rejected_cons, inspect, inspect, ih]
    | blank => exact ih before

/-- Blanks do not matter to the verdict. -/
theorem verdict_dropBlanks (ps : List Piece) : verdict (Piece.dropBlanks ps) = verdict ps := by
  rw [verdict, verdict, allFaults, allFaults, inspect_dropBlanks, Piece.lexemes_dropBlanks]

theorem Lexer.classify_ne_blank {m : Munch} (hm : m.shape ≠ .blank) (table : Spellings)
    (lx : Lexer) : lx.classify table m ≠ .blank := by
  rcases m with ⟨shape, text⟩
  cases shape with
  | blank => exact absurd rfl hm
  | _ => nofun

/-- **In a rewritten text a lexer finds the same pieces but blanks.** -/
theorem Respaces.pieces_eq {f : Option Char → List Char → List Char} (hf : Respaces f)
    (table : Spellings) {lx lx' : Lexer} (h : Lexer.InStep 0 lx lx') {before : Option Char}
    (hrest : lx'.cursor.rest = f before lx.cursor.rest) :
    Piece.dropBlanks (lx'.pieces table) = Piece.dropBlanks (lx.pieces table) := by
  induction lx using Lexer.munch_induction table generalizing lx' before with
  | done lx hnil =>
    rw [hnil, hf.nil] at hrest
    rw [Lexer.pieces_of_rest_eq_nil hnil, Lexer.pieces_of_rest_eq_nil hrest]
  | step lx m rest hm hcut ih =>
    rw [hcut] at hrest
    rw [Lexer.pieces_of_isMunch hm hcut]
    by_cases hblank : m.shape = .blank
    · cases hm with
      | @blank c _ hc =>
        have hpass := h.pass_blank_left table (c := c)
        rcases hf.blank hc with hdrop | ⟨b, hb, hkeep⟩
        · exact ih hpass (by rw [Lexer.rest_pass hcut]; exact hrest.trans hdrop)
        · have hcut' : lx'.cursor.rest = [b] ++ f (some c) rest := hrest.trans hkeep
          rw [Lexer.pieces_of_isMunch (.blank hb) hcut']
          exact ih (hpass.pass_blank_right table)
            (by rw [Lexer.rest_pass hcut', Lexer.rest_pass hcut])
      | _ => cases hblank
    · rw [hf.append_eq hm.text_ne_nil (hm.isBlank_of_mem hblank)] at hrest
      have hm' := hf.isMunch hm
      rw [← h.afterOperand] at hm'
      have htail := ih (h.pass table m) (by rw [Lexer.rest_pass hrest, Lexer.rest_pass hcut])
      have hpiece := Lexer.classify_ne_blank hblank table lx
      rw [Lexer.pieces_of_isMunch hm' hrest, h.classify, Piece.shift_zero,
        Piece.dropBlanks_cons hpiece, Piece.dropBlanks_cons hpiece, htail]

/-! ## Sources -/

theorem Respaces.analyzeWith_eq {f : Option Char → List Char → List Char} (hf : Respaces f)
    (table : Spellings) {source other : String} (h : other.toList = f none source.toList) :
    analyzeWith table other = analyzeWith table source := by
  rw [analyzeWith_eq_verdict, ← verdict_dropBlanks, hf.pieces_eq table (.ofSource source other) h,
    verdict_dropBlanks, analyzeWith_eq_verdict]

/-- A source may be respaced. -/
theorem analyzeWith_respace (table : Spellings) (source : String) :
    analyzeWith table (respace source) = analyzeWith table source := by
  have hcollapse : analyzeWith table (.ofList (collapseBlanks source.toList)) =
      analyzeWith table source :=
    respaces_collapseBlanks.analyzeWith_eq table String.toList_ofList
  rw [← hcollapse]
  refine respaces_trimLines.analyzeWith_eq table ?_
  rw [respace, String.toList_ofList, String.toList_ofList]

/-- **The spacing of a source never matters**: sources that differ in nothing else have the same
outcome. -/
theorem analyzeWith_eq_of_respace_eq {source other : String} (h : respace source = respace other)
    (table : Spellings) : analyzeWith table source = analyzeWith table other := by
  rw [← analyzeWith_respace table source, h, analyzeWith_respace]

/-- Blanks before a colon and behind a minus and an exclamation mark, which go with what follows
only if it follows at once: once in a source that is accepted, and once in one that is not. -/
theorem analyzeWith_eq_of_respace_eq_of_tabs :
    (respace "\tint  a \n a\t:= - \t1 " = respace "int a\na := - 1" ∧
      ∃ a, analyzeWith .standard "\tint  a \n a\t:= - \t1 " = .ok a ∧
        analyzeWith .standard "int a\na := - 1" = .ok a ∧
        a.tokens.map (fun t => t.text) = ["int", "a", "¶", "a", ":", "=", "-", "1"]) ∧
    respace "\tint  a \n a\t:= - \t1 !\t= a " = respace "int a\na := - 1 ! = a" ∧
      analyzeWith .standard "\tint  a \n a\t:= - \t1 !\t= a " =
        .error [⟨.expectedSymbol "!" "=", some 2⟩] ∧
      analyzeWith .standard "int a\na := - 1 ! = a" =
        .error [⟨.expectedSymbol "!" "=", some 2⟩] := by
  have h : respace "\tint  a \n a\t:= - \t1 " = respace "int a\na := - 1" := by cbv
  have hok : analyzeWith .standard "int a\na := - 1" = .ok
      ⟨[⟨⟨1, "int", .spelling 13⟩, 1, none⟩, ⟨⟨1, "a", .identifier⟩, 2, some 1⟩,
          ⟨⟨1, "¶", .spelling 31⟩, 3, none⟩, ⟨⟨2, "a", .identifier⟩, 4, some 1⟩,
          ⟨⟨2, ":", .spelling 24⟩, 5, none⟩, ⟨⟨2, "=", .spelling 1⟩, 6, none⟩,
          ⟨⟨2, "-", .spelling 19⟩, 7, none⟩, ⟨⟨2, "1", .constant⟩, 8, some 1⟩],
        [⟨"a", 1, "int"⟩], [⟨"1", 1⟩], []⟩ := by cbv
  have h' : respace "\tint  a \n a\t:= - \t1 !\t= a " = respace "int a\na := - 1 ! = a" := by cbv
  have herror : analyzeWith .standard "int a\na := - 1 ! = a" =
      .error [⟨.expectedSymbol "!" "=", some 2⟩] := by cbv
  exact ⟨⟨h, _, (analyzeWith_eq_of_respace_eq h .standard).trans hok, hok, rfl⟩, h',
    (analyzeWith_eq_of_respace_eq h' .standard).trans herror, herror⟩

end Lexis
