import Lexis.Proofs.Layout
import Lexis.Proofs.Lockstep
import Lexis.Proofs.Verdict

/-!
# Rejected characters are blanks

A character that no lexeme can hold is passed like a blank: with a space in its place the lexer
finds the same lexemes, and of the diagnostics only those of rejected characters are gone.

* `isRejected`, `blankRejected`: the characters that are rejected in a text, and the text with
  spaces in their place;
* `Munch.recover`, `Piece.recover`: a blank in the place of a rejected piece;
* `Lexer.pieces_blankRejected`: the pieces of such a text;
* `inspect_map_recover`: the diagnostics of such pieces;
* **`scan_blankRejected`**: a scan of such a text and its outcome.
-/

namespace Lexis

open Alphabet

/-- The character is rejected where it stands before the rest: no source may hold it, or it is an
exclamation mark that no equals sign follows. -/
def isRejected (c : Char) (rest : List Char) : Bool :=
  !isLegal c || (c = '!' && rest.head? ≠ some '=')

/-- The text with a space in the place of each rejected character. -/
def blankRejectedList : List Char → List Char
  | [] => []
  | c :: cs => (if isRejected c cs then ' ' else c) :: blankRejectedList cs

/-- The source with a space in the place of each rejected character. -/
def blankRejected (source : String) : String := String.ofList (blankRejectedList source.toList)

/-- A blank in the place of a rejected piece. -/
def Munch.recover (m : Munch) : Munch :=
  match m.shape with
  | .rejected _ => ⟨.blank, [' ']⟩
  | _ => m

/-- A blank in the place of a rejected piece. -/
def Piece.recover : Piece → Piece
  | .lexeme l => .lexeme l
  | .rejected _ => .blank
  | .blank => .blank

/-! ## Texts without rejected characters -/

theorem isRejected_of_isLegal {c : Char} (h : isLegal c = true) (hbang : c ≠ '!')
    (rest : List Char) : isRejected c rest = false := by
  simp [isRejected, h, hbang]

theorem blankRejectedList_append {text : List Char}
    (h : ∀ c ∈ text, isLegal c = true ∧ c ≠ '!') (rest : List Char) :
    blankRejectedList (text ++ rest) = text ++ blankRejectedList rest := by
  induction text with
  | nil => rfl
  | cons c cs ih =>
    rw [List.forall_mem_cons] at h
    rw [List.cons_append, blankRejectedList, isRejected_of_isLegal h.1.1 h.1.2, ih h.2]
    rfl

/-- What comes next is a space, or what came next before. -/
theorem eq_of_mem_head?_blankRejectedList {c : Char} {rest : List Char}
    (h : c ∈ (blankRejectedList rest).head?) (hc : isLexical c = true) : rest.head? = some c := by
  cases rest with
  | nil => cases h
  | cons d ds =>
    rw [blankRejectedList, List.head?_cons, Option.mem_some_iff] at h
    split_ifs at h with hrejected
    · subst h
      exact absurd hc (by decide)
    · exact congrArg some h

theorem isLegal_of_isLexical {c : Char} (h : isLexical c = true) : isLegal c = true := by
  simp [isLegal, h]

theorem ne_bang_of_isAlphanum {c : Char} (h : c.isAlphanum = true) : c ≠ '!' := by
  rintro rfl
  exact absurd h (by decide)

theorem ne_bang_of_mem_followers {c d : Char} (hd : d ∈ followers c) : c ≠ '!' ∧ d ≠ '!' := by
  rcases eq_of_mem_followers hd with ⟨rfl, rfl⟩ | ⟨rfl, rfl⟩ | ⟨rfl, rfl⟩ | ⟨rfl, rfl⟩ | ⟨rfl, rfl⟩
  all_goals decide

namespace IsMunch

variable {afterOperand : Bool} {m : Munch} {rest : List Char}

/-- Only an operator that begins with an exclamation mark holds one. -/
theorem bang_not_mem (h : IsMunch afterOperand m rest) (hm : m.shape.isLexical = true)
    (hunequal : m ≠ ⟨.operator, ['!', '=']⟩) : '!' ∉ m.text := by
  cases h with
  | label hw =>
    intro hmem
    rcases List.mem_append.1 hmem with hmem | hmem
    · exact ne_bang_of_isAlphanum (hw.2 _ hmem) rfl
    · simp at hmem
  | word hw => exact fun hmem => ne_bang_of_isAlphanum (hw.2 _ hmem) rfl
  | numeral hds => exact fun hmem => absurd (hds.2 _ hmem) (by decide)
  | negative hds =>
    intro hmem
    rcases List.mem_cons.1 hmem with hmem | hmem
    · cases hmem
    · exact absurd (hds.2 _ hmem) (by decide)
  | minus => decide
  | solo hc =>
    intro hmem
    obtain rfl := List.mem_singleton.1 hmem
    exact absurd hc (by decide)
  | joined hd =>
    obtain ⟨hc, hd⟩ := ne_bang_of_mem_followers hd
    simp [hc.symm, hd.symm]
  | single hc =>
    intro hmem
    obtain rfl := List.mem_singleton.1 hmem
    exact hc rfl
  | unequal => exact absurd rfl hunequal
  | bang | newline | blank | illegal => cases hm

/-- **Blanks in the place of rejected characters leave every other piece as it is.** -/
theorem recover (h : IsMunch afterOperand m rest) :
    blankRejectedList (m.text ++ rest) = m.recover.text ++ blankRejectedList rest ∧
      IsMunch afterOperand m.recover (blankRejectedList rest) := by
  have hkeep := h.of_head? fun c hc => eq_of_mem_head?_blankRejectedList hc
  have hlexical := h.forall_isLexical
  have hbang := h.bang_not_mem
  have htext (hm : m.shape.isLexical = true) (hunequal : m ≠ ⟨.operator, ['!', '=']⟩) :
      blankRejectedList (m.text ++ rest) = m.text ++ blankRejectedList rest :=
    blankRejectedList_append (fun c hc => ⟨isLegal_of_isLexical (hlexical hm c hc),
      fun heq => hbang hm hunequal (heq ▸ hc)⟩) rest
  cases h with
  | joined hd => exact ⟨htext rfl (by simp [(ne_bang_of_mem_followers hd).1]), hkeep⟩
  | unequal => exact ⟨rfl, hkeep⟩
  | bang hhead =>
    refine ⟨?_, .blank rfl⟩
    have hrejected : isRejected '!' rest = true := by simp [isRejected, hhead]
    rw [List.singleton_append, blankRejectedList, hrejected]
    rfl
  | newline => exact ⟨rfl, hkeep⟩
  | @blank c _ hc =>
    refine ⟨blankRejectedList_append (fun d hd => ?_) rest, hkeep⟩
    obtain rfl := List.mem_singleton.1 hd
    refine ⟨by simp [isLegal, hc], ?_⟩
    rintro rfl
    exact absurd hc (by decide)
  | @illegal c _ hc =>
    refine ⟨?_, .blank rfl⟩
    have hrejected : isRejected c rest = true := by simp [isRejected, hc]
    rw [List.singleton_append, blankRejectedList, hrejected]
    rfl
  | _ => exact ⟨htext rfl (by simp), hkeep⟩

end IsMunch

/-! ## The lexer -/

namespace Lexer

theorem classify_recover {lx lx' : Lexer} (h : InStep 0 lx lx') (table : Spellings) (m : Munch) :
    lx'.classify table m.recover = (lx.classify table m).recover := by
  rcases m with ⟨shape, text⟩
  cases shape with
  | rejected fault => rfl
  | _ => exact (h.classify table _).trans (Piece.shift_zero _)

/-- A rejected piece is not remembered, and neither is a blank. -/
theorem pass_recover {lx lx' : Lexer} (h : InStep 0 lx lx') (table : Spellings) (m : Munch) :
    InStep 0 (lx.pass table m) (lx'.pass table m.recover) := by
  rcases m with ⟨shape, text⟩
  cases shape with
  | rejected fault => exact ⟨h.afterOperand, h.afterGoto, h.line⟩
  | _ => exact h.pass table _

theorem translates_recover (table : Spellings) :
    Translates 0 table table blankRejectedList Munch.recover Piece.recover where
  nil := rfl
  cut hm := hm.recover
  step h _ := ⟨classify_recover h table _, pass_recover h table _⟩

/-- **Blanks in the place of rejected characters are blanks in the place of rejected pieces.** -/
theorem pieces_blankRejected (table : Spellings) (source : String) :
    (ofSource (blankRejected source)).pieces table =
      ((ofSource source).pieces table).map Piece.recover := by
  refine (translates_recover table).pieces_eq (.ofSource source _) ?_
  rw [rest_ofSource, rest_ofSource, blankRejected, String.toList_ofList]

end Lexer

/-! ## Diagnostics of recovered pieces -/

theorem Piece.lexemes_map_recover (ps : List Piece) : lexemes (ps.map recover) = lexemes ps := by
  induction ps with
  | nil => rfl
  | cons p ps ih => cases p <;> simp [recover, ih]

/-- Without rejected pieces only the diagnostics of characters are gone. -/
theorem inspect_map_recover {ps : List Piece} (before : List Lexeme)
    (htopic : ∀ d, .rejected d ∈ ps → d.fault.topic = .character) :
    inspect before (ps.map Piece.recover) =
      (inspect before ps).filter fun d => d.fault.topic ≠ .character := by
  induction ps generalizing before with
  | nil => rfl
  | cons p ps ih =>
    have htail (before : List Lexeme) :=
      ih before fun d hd => htopic d (List.mem_cons_of_mem _ hd)
    cases p with
    | lexeme l =>
      rw [List.map_cons, Piece.recover, inspect, inspect, List.filter_append, htail]
      congr 1
      -- no lexeme has a fault of a character
      cases hfault : lexemeFault? before l with
      | none => rfl
      | some fault => simp [topic_of_lexemeFault? hfault]
    | rejected d =>
      have hd := htopic d (List.mem_cons_self ..)
      rw [List.map_cons, Piece.recover, inspect, inspect, htail, List.filter_cons_of_neg (by simpa)]
    | blank => exact htail before

theorem filter_missingLabels (ls : List Lexeme) :
    (missingLabels ls).filter (fun d => d.fault.topic ≠ .character) = missingLabels ls :=
  filter_missingLabels_eq_self (fun _ => rfl) ls

/-- **A rejected character is passed like a blank**: with a space in its place only its diagnostic
is gone. -/
theorem scan_blankRejected (table : Spellings) (source : String) :
    (Draft.scan table (blankRejected source)).toAnalysis = (Draft.scan table source).toAnalysis ∧
      diagnosticsOf (analyzeWith table (blankRejected source)) =
        (diagnosticsOf (analyzeWith table source)).filter fun d => d.fault.topic ≠ .character := by
  have hpieces := Lexer.pieces_blankRejected table source
  constructor
  · rw [Draft.toAnalysis_scan, Draft.toAnalysis_scan, hpieces, Piece.lexemes_map_recover]
  · have hfaults := inspect_map_recover []
      fun _ hd => Lexer.topic_of_rejected_mem_pieces table (Lexer.ofSource source) hd
    rw [diagnosticsOf_analyzeWith, diagnosticsOf_analyzeWith, Draft.allDiagnostics_scan,
      Draft.allDiagnostics_scan, allFaults, allFaults, hpieces, Piece.lexemes_map_recover, hfaults,
      List.filter_append, filter_missingLabels]

/-- Rejected characters between lexemes and before the end of a line, and other faults. -/
theorem scan_blankRejected_of_marks :
    blankRejected "goto L$x !\nint y@ = 1" = "goto L x  \nint y  = 1" ∧
      (Draft.scan .standard (blankRejected "goto L$x !\nint y@ = 1")).toAnalysis =
        (Draft.scan .standard "goto L$x !\nint y@ = 1").toAnalysis ∧
      (Draft.scan .standard "goto L$x !\nint y@ = 1").lexemes.map Lexeme.text =
        ["goto", "L", "x", "¶", "int", "y", "=", "1"] ∧
      diagnosticsOf (analyzeWith .standard "goto L$x !\nint y@ = 1") =
        [⟨.unknownSymbol '$', some 1⟩, ⟨.variableUndeclared "x", some 1⟩,
          ⟨.expectedSymbol "!" "=", some 1⟩, ⟨.unknownSymbol '@', some 2⟩,
          ⟨.labelNeverDeclared "L", none⟩] ∧
      diagnosticsOf (analyzeWith .standard (blankRejected "goto L$x !\nint y@ = 1")) =
        [⟨.variableUndeclared "x", some 1⟩, ⟨.labelNeverDeclared "L", none⟩] := by
  obtain ⟨hsame, hfaults⟩ := scan_blankRejected .standard "goto L$x !\nint y@ = 1"
  have hdiagnostics : diagnosticsOf (analyzeWith .standard "goto L$x !\nint y@ = 1") =
      [⟨.unknownSymbol '$', some 1⟩, ⟨.variableUndeclared "x", some 1⟩,
        ⟨.expectedSymbol "!" "=", some 1⟩, ⟨.unknownSymbol '@', some 2⟩,
        ⟨.labelNeverDeclared "L", none⟩] := by cbv
  rw [hdiagnostics] at hfaults
  exact ⟨by cbv, hsame, by cbv, hdiagnostics, hfaults.trans (by decide)⟩

end Lexis
