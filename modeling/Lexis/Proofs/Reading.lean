import Lexis.Proofs.Draft

/-!
# Reading a source from left to right

Rules that cut a source into lexemes and remember nothing but the last one, and the proof that a
scan follows them.

* `Reading`, `Lexeme.reading`: the text and the kind of a lexeme;
* `pairs`, `Spellings.kindOr`: the operators of two characters, and the kind of a text that the
  spelling table may have;
* `Rule`: what may be read next, one rule a sort of piece;
* `Reads`: a source is read by rule after rule;
* **`reads_iff_tokens_scan`**: the rules read exactly the tokens of the scan from a source.
-/

namespace Lexis

/-- The text and the kind of a lexeme. -/
abbrev Reading : Type := String × Kind

/-- The text and the kind of a lexeme. -/
def Lexeme.reading (l : Lexeme) : Reading := (l.text, l.kind)

/-- A code of the table if the text is one of its spellings, otherwise `other`. -/
def Spellings.kindOr (table : Spellings) (text : String) (other : Kind) : Kind :=
  match table.code? text with
  | some code => .spelling code
  | none => other

/-- An identifier or a constant was read last. -/
def Reading.afterOperand (last : Option Reading) : Bool :=
  last.any fun r => r.2 = .identifier || r.2 = .constant

/-- The text `goto` was read last. -/
def Reading.afterGoto (last : Option Reading) : Bool := last.any fun r => r.1 = "goto"

/-- The operators of two characters. -/
def pairs : List (Char × Char) :=
  [('=', '='), ('<', '='), ('<', '<'), ('>', '='), ('>', '>'), ('!', '=')]

/-- What may be read next, after `last`: a piece of the text, the rest that it is followed by, and
what the piece reads as, if it is a lexeme. -/
inductive Rule (table : Spellings) (last : Option Reading) :
    List Char → List Char → Option Reading → Prop
  | label {w rest : List Char} (hw : IsWord w) :
      Rule table last (w ++ [':']) rest (some (String.ofList (w ++ [':']), .label))
  | word {w rest : List Char} (hw : IsWord w) (hend : Ends Char.isAlphanum rest)
      (hcolon : rest.head? ≠ some ':') :
      Rule table last w rest (some (String.ofList w, table.kindOr (String.ofList w)
        (if Reading.afterGoto last then .label else .identifier)))
  | numeral {ds rest : List Char} (hds : IsNumeral ds) (hend : Ends Char.isDigit rest) :
      Rule table last ds rest (some (String.ofList ds, .constant))
  | negative {ds rest : List Char} (hds : IsNumeral ds) (hend : Ends Char.isDigit rest)
      (hoperand : Reading.afterOperand last = false) :
      Rule table last ('-' :: ds) rest (some (String.ofList ('-' :: ds), .constant))
  | minus {rest : List Char} (h : Reading.afterOperand last = true ∨ Ends Char.isDigit rest) :
      Rule table last ['-'] rest (some ("-", table.kindOr "-" .unmapped))
  | solo {c : Char} {rest : List Char}
      (hc : c ∈ ['+', '*', '/', '^', ',', '?', ':', '(', ')', '\x7b', '\x7d']) :
      Rule table last [c] rest
        (some (String.ofList [c], table.kindOr (String.ofList [c]) .unmapped))
  | pair {c d : Char} {rest : List Char} (h : (c, d) ∈ pairs) :
      Rule table last [c, d] rest
        (some (String.ofList [c, d], table.kindOr (String.ofList [c, d]) .unmapped))
  | half {c : Char} {rest : List Char} (hc : c ∈ ['=', '<', '>'])
      (hend : ∀ d ∈ rest.head?, (c, d) ∉ pairs) :
      Rule table last [c] rest
        (some (String.ofList [c], table.kindOr (String.ofList [c]) .unmapped))
  | newline {rest : List Char} :
      Rule table last ['\n'] rest (some ("¶", .spelling ((table.code? "\n").getD 0)))
  | blank {c : Char} {rest : List Char} (hc : c = ' ' ∨ c = '\t') : Rule table last [c] rest none
  | bang {rest : List Char} (h : rest.head? ≠ some '=') : Rule table last ['!'] rest none
  | illegal {c : Char} {rest : List Char} (halphanum : c.isAlphanum = false)
      (hother : c ∉ ['+', '*', '/', '^', ',', '?', ':', '(', ')', '\x7b', '\x7d', '-', '=', '<',
        '>', '!', ' ', '\t', '\n']) :
      Rule table last [c] rest none

/-- The text is read from left to right, after `last`. -/
inductive Reads (table : Spellings) : Option Reading → List Char → List Reading → Prop
  | done {last : Option Reading} : Reads table last [] []
  | step {last reading : Option Reading} {piece rest : List Char} {out : List Reading}
      (hrule : Rule table last piece rest reading) (hrest : Reads table (reading.or last) rest out) :
      Reads table last (piece ++ rest) (reading.toList ++ out)

/-! ## The lexer follows the rules -/

/-- What a piece reads as. -/
def Piece.reading? (p : Piece) : Option Reading := p.lexeme?.map Lexeme.reading

section

variable {table : Spellings} {lx : Lexer} {m : Munch} {rest : List Char}

theorem mem_pairs_of_mem_followers {c d : Char} (hc : c ∈ ['=', '<', '>']) :
    d ∈ Alphabet.followers c ↔ (c, d) ∈ pairs := by
  simp only [List.mem_cons, List.not_mem_nil, or_false] at hc
  rcases hc with rfl | rfl | rfl <;> simp [Alphabet.followers, pairs]

theorem mem_of_followers_ne_nil {c : Char} (h : Alphabet.followers c ≠ []) :
    c ∈ ['=', '<', '>'] := by
  simpa using Alphabet.followers_ne_nil_iff.1 h

theorem Lexer.afterOperand_eq : Reading.afterOperand (lx.last.map Lexeme.reading) = lx.afterOperand := by
  rw [Reading.afterOperand, Option.any_map]
  rfl

theorem Lexer.afterGoto_eq : Reading.afterGoto (lx.last.map Lexeme.reading) = lx.afterGoto := by
  rw [Reading.afterGoto, Option.any_map]
  rfl

theorem Lexer.wordKind_eq (text : String) :
    table.kindOr text (if Reading.afterGoto (lx.last.map Lexeme.reading) then .label else .identifier) =
      lx.wordKind table text := by
  rw [Lexer.afterGoto_eq]
  rfl

theorem Lexer.operatorKind_eq (text : String) :
    table.kindOr text .unmapped = Lexer.operatorKind table text := by
  unfold Spellings.kindOr Lexer.operatorKind
  cases table.code? text <;> rfl

theorem Lexer.map_reading_last_pass :
    (lx.pass table m).last.map Lexeme.reading =
      (lx.classify table m).reading?.or (lx.last.map Lexeme.reading) := by
  rw [pass, Option.map_or]
  rfl

theorem IsMunch.rule (h : IsMunch lx.afterOperand m rest) :
    Rule table (lx.last.map Lexeme.reading) m.text rest (lx.classify table m).reading? := by
  cases h with
  | label hw => exact .label hw
  | word hw hend hcolon =>
    change Rule _ _ _ _ (some (_, lx.wordKind table _))
    rw [← Lexer.wordKind_eq]
    exact .word hw hend hcolon
  | numeral hds hend => exact .numeral hds hend
  | negative hds hend hoperand => exact .negative hds hend (Lexer.afterOperand_eq.trans hoperand)
  | minus h =>
    change Rule _ _ _ _ (some (_, Lexer.operatorKind table _))
    rw [← Lexer.operatorKind_eq]
    exact .minus (Lexer.afterOperand_eq ▸ h)
  | solo hc =>
    change Rule _ _ _ _ (some (_, Lexer.operatorKind table _))
    rw [← Lexer.operatorKind_eq]
    exact .solo (Alphabet.isSolo_iff.1 hc)
  | joined hd =>
    change Rule _ _ _ _ (some (_, Lexer.operatorKind table _))
    rw [← Lexer.operatorKind_eq]
    have hc := mem_of_followers_ne_nil (List.ne_nil_of_mem hd)
    exact .pair ((mem_pairs_of_mem_followers hc).1 hd)
  | single hc hend =>
    change Rule _ _ _ _ (some (_, Lexer.operatorKind table _))
    rw [← Lexer.operatorKind_eq]
    have hmem := mem_of_followers_ne_nil hc
    exact .half hmem fun d hd hpair => hend d hd ((mem_pairs_of_mem_followers hmem).2 hpair)
  | unequal =>
    change Rule _ _ _ _ (some (_, Lexer.operatorKind table _))
    rw [← Lexer.operatorKind_eq]
    exact .pair (by decide)
  | bang h => exact .bang h
  | newline => exact .newline
  | blank hc => exact .blank (by simpa [Alphabet.isBlank] using hc)
  | illegal hc =>
    refine .illegal ?_ ?_
    · simp_all [Alphabet.isLegal, Alphabet.isLexical]
    · simp_all [Alphabet.isLegal, Alphabet.isLexical, Alphabet.isSolo, Alphabet.solo,
        Alphabet.isBlank]

theorem Rule.exists_isMunch {piece : List Char} {reading : Option Reading}
    (h : Rule table (lx.last.map Lexeme.reading) piece rest reading) :
    ∃ m, IsMunch lx.afterOperand m rest ∧ m.text = piece ∧
      (lx.classify table m).reading? = reading := by
  cases h with
  | label hw => exact ⟨_, .label hw, rfl, rfl⟩
  | word hw hend hcolon =>
    rw [Lexer.wordKind_eq]
    exact ⟨_, .word hw hend hcolon, rfl, rfl⟩
  | numeral hds hend => exact ⟨_, .numeral hds hend, rfl, rfl⟩
  | negative hds hend hoperand =>
    rw [Lexer.afterOperand_eq] at hoperand
    exact ⟨_, .negative hds hend hoperand, rfl, rfl⟩
  | minus h =>
    rw [Lexer.afterOperand_eq] at h
    rw [Lexer.operatorKind_eq]
    exact ⟨_, .minus h, rfl, rfl⟩
  | solo hc =>
    rw [Lexer.operatorKind_eq]
    exact ⟨_, .solo (Alphabet.isSolo_iff.2 hc), rfl, rfl⟩
  | @pair c d _ h =>
    rw [Lexer.operatorKind_eq]
    by_cases hbang : c = '!'
    · subst hbang
      obtain rfl : d = '=' := by simpa [pairs] using h
      exact ⟨_, .unequal, rfl, rfl⟩
    · have hc : c ∈ ['=', '<', '>'] := by
        simp only [pairs, List.mem_cons, Prod.mk.injEq, List.not_mem_nil, or_false] at h
        rcases h with h | h | h | h | h | h <;> simp_all
      exact ⟨_, .joined ((mem_pairs_of_mem_followers hc).2 h), rfl, rfl⟩
  | half hc hend =>
    rw [Lexer.operatorKind_eq]
    refine ⟨_, .single ?_ fun d hd hmem => ?_, rfl, rfl⟩
    · exact Alphabet.followers_ne_nil_iff.2 (by simpa using hc)
    · exact hend d hd ((mem_pairs_of_mem_followers hc).1 hmem)
  | newline => exact ⟨_, .newline, rfl, rfl⟩
  | blank hc => exact ⟨_, .blank (by simpa [Alphabet.isBlank] using hc), rfl, rfl⟩
  | bang h => exact ⟨_, .bang h, rfl, rfl⟩
  | illegal halphanum hother =>
    refine ⟨_, .illegal ?_, rfl, rfl⟩
    simp_all [Alphabet.isLegal, Alphabet.isLexical, Alphabet.isSolo, Alphabet.solo,
      Alphabet.isBlank]

end

theorem Piece.filterMap_reading?_cons (p : Piece) (ps : List Piece) :
    (p :: ps).filterMap reading? = p.reading?.toList ++ ps.filterMap reading? := by
  cases h : p.reading? <;> simp [h]

theorem reads_pieces (table : Spellings) (lx : Lexer) :
    Reads table (lx.last.map Lexeme.reading) lx.cursor.rest
      ((lx.pieces table).filterMap Piece.reading?) := by
  induction lx using Lexer.munch_induction table with
  | done lx h =>
    rw [h, Lexer.pieces_of_rest_eq_nil h]
    exact .done
  | step lx m rest h hrest ih =>
    rw [Lexer.rest_pass hrest, Lexer.map_reading_last_pass] at ih
    rw [hrest, Lexer.pieces_of_isMunch h hrest, Piece.filterMap_reading?_cons]
    exact .step h.rule ih

theorem Reads.eq_pieces {table : Spellings} {last : Option Reading} {cs : List Char}
    {out : List Reading} (h : Reads table last cs out) {lx : Lexer}
    (hlast : lx.last.map Lexeme.reading = last) (hrest : lx.cursor.rest = cs) :
    (lx.pieces table).filterMap Piece.reading? = out := by
  induction h generalizing lx with
  | done => rw [Lexer.pieces_of_rest_eq_nil hrest, List.filterMap_nil]
  | step hrule _ ih =>
    subst hlast
    obtain ⟨m, hm, rfl, rfl⟩ := hrule.exists_isMunch
    rw [Lexer.pieces_of_isMunch hm hrest, Piece.filterMap_reading?_cons,
      ih Lexer.map_reading_last_pass (Lexer.rest_pass hrest)]

/-- **The rules read exactly the tokens of the scan from a source**, whether or not the scan finds
faults. -/
theorem reads_iff_tokens_scan (table : Spellings) (source : String) (out : List Reading) :
    Reads table none source.toList out ↔
      (Draft.scan table source).tokens.toList.map (fun t => (t.text, t.kind)) = out := by
  have htokens : (Draft.scan table source).tokens.toList.map (fun t => (t.text, t.kind)) =
      ((Lexer.ofSource source).pieces table).filterMap Piece.reading? := by
    calc (Draft.scan table source).tokens.toList.map (fun t => (t.text, t.kind))
      _ = (Draft.scan table source).lexemes.map Lexeme.reading := by
        rw [Draft.lexemes, List.map_map]
        rfl
      _ = (Piece.lexemes ((Lexer.ofSource source).pieces table)).map Lexeme.reading := by
        rw [Draft.lexemes_scan]
      _ = ((Lexer.ofSource source).pieces table).filterMap Piece.reading? := by
        rw [Piece.lexemes, List.map_filterMap]
        rfl
  rw [htokens]
  constructor
  · exact fun h => h.eq_pieces rfl rfl
  · rintro rfl
    exact reads_pieces table (Lexer.ofSource source)

/-- A sign behind an operand is no part of a number, one behind an operator is. -/
theorem reads_tokens_of_difference :
    Reads .standard none "goto L:\na--5".toList
      [("goto", .spelling 25), ("L:", .label), ("¶", .spelling 31), ("a", .identifier),
        ("-", .spelling 19), ("-5", .constant)] :=
  (reads_iff_tokens_scan .standard "goto L:\na--5" _).2 (by cbv)

end Lexis
