import Lexis.Excerpt
import Lexis.Proofs.Conservation

/-!
# The places of diagnostics

Every diagnostic with a line has a piece of the source that caused it, and tells where that piece
lies.

* `Lexer.placed`: the pieces that are left, each with the number of characters before it;
* `Fault.subject`: the text that a fault is about;
* `Piece.Causes`, `Diagnostic.LiesAt`: the piece is the cause of a diagnostic, and the diagnostic
  tells the line of its subject;
* `Draft.exists_causes`: the diagnostics of a scan have causes, in the order of the source;
* `infix_trimList`: trimming a line keeps the texts in it that hold no white space;
* **`diagnostics_point_to_causes`**: so do the diagnostics of a source, and the excerpt that each of
  them is shown with holds its subject.
-/

namespace Lexis

open Alphabet Source

/-! ## Pieces in their places -/

namespace Lexer

/-- The pieces that are left, in order, each with the number of characters before it. -/
def placed (table : Spellings) (lx : Lexer) : List (Nat × Piece) :=
  match _h : lx.next? table with
  | none => []
  | some (piece, lx') => (lx.cursor.offset, piece) :: placed table lx'
termination_by lx.cursor.rest.length
decreasing_by exact length_rest_lt_of_next? _h

variable {table : Spellings} {lx : Lexer} {m : Munch} {rest : List Char}

theorem placed_of_rest_eq_nil (h : lx.cursor.rest = []) : lx.placed table = [] := by
  rw [placed]
  split
  · rfl
  · next hnext => rw [next?_eq_none_iff.2 h] at hnext; cases hnext

theorem placed_of_isMunch (h : IsMunch lx.afterOperand m rest)
    (hrest : lx.cursor.rest = m.text ++ rest) :
    lx.placed table =
      (lx.cursor.offset, lx.classify table m) :: (lx.pass table m).placed table := by
  rw [placed]
  split
  · next hnone => rw [next?_of_isMunch h hrest] at hnone; cases hnone
  · next hsome => rw [next?_of_isMunch h hrest] at hsome; cases hsome; rfl

@[simp] theorem map_snd_placed (table : Spellings) (lx : Lexer) :
    (lx.placed table).map Prod.snd = lx.pieces table := by
  induction lx using munch_induction table with
  | done lx h => rw [placed_of_rest_eq_nil h, pieces_of_rest_eq_nil h]; rfl
  | step lx m rest h hrest ih =>
    rw [placed_of_isMunch h hrest, pieces_of_isMunch h hrest, List.map_cons, ih]

theorem offset_pass : (lx.pass table m).cursor.offset = lx.cursor.offset + m.text.length := by
  rw [pass, offset_cursorAfter]

theorem le_of_mem_placed (table : Spellings) (lx : Lexer) {x : Nat × Piece}
    (hx : x ∈ lx.placed table) : lx.cursor.offset ≤ x.1 := by
  induction lx using munch_induction table with
  | done lx h => simp [placed_of_rest_eq_nil h] at hx
  | step lx m rest h hrest ih =>
    rw [placed_of_isMunch h hrest, List.mem_cons] at hx
    rcases hx with rfl | hx
    · exact Nat.le_refl _
    · have hle := ih hx
      rw [offset_pass] at hle
      omega

/-- No two pieces begin at the same place. -/
theorem pairwise_placed (table : Spellings) (lx : Lexer) :
    (lx.placed table).Pairwise fun x y => x.1 < y.1 := by
  induction lx using munch_induction table with
  | done lx h => simp [placed_of_rest_eq_nil h]
  | step lx m rest h hrest ih =>
    rw [placed_of_isMunch h hrest, List.pairwise_cons]
    refine ⟨fun y hy => ?_, ih⟩
    have hle := le_of_mem_placed table _ hy
    have hpos := List.length_pos_iff.2 h.text_ne_nil
    rw [offset_pass] at hle
    dsimp only
    omega

end Lexer

/-! ## Causes -/

/-- The text that the fault is about. -/
def Fault.subject : Fault → String
  | .unknownSymbol symbol => String.singleton symbol
  | .expectedSymbol _ _ => "!"
  | .variableRedeclared name | .variableUndeclared name => name
  | .labelReferencedAgain name | .labelRedeclared name | .labelNeverDeclared name => name

/-- The piece is the cause of the diagnostic: a character that is rejected, or a lexeme that names
the identifier or the label at fault. -/
def Piece.Causes : Piece → Diagnostic → Prop
  | .rejected diagnostic, d => d = diagnostic
  | .lexeme l, d => d.line = some l.line ∧
    (l.kind = .identifier ∧
        (d.fault = .variableRedeclared l.text ∨ d.fault = .variableUndeclared l.text) ∨
      l.kind = .label ∧
        (d.fault = .labelReferencedAgain l.labelName ∨ d.fault = .labelRedeclared l.labelName))
  | .blank, _ => False

/-- The subject of the diagnostic stands in the text behind `offset` characters, and the diagnostic
tells the line that it stands on. -/
def Diagnostic.LiesAt (d : Diagnostic) (cs : List Char) (offset : Nat) : Prop :=
  ∃ before behind, cs = before ++ d.fault.subject.toList ++ behind ∧ before.length = offset ∧
    d.line.map UInt32.toNat = some (before.count '\n' + 1)

/-- The subject of the fault is one character that no source may hold, or made up of lexical
characters. -/
def Fault.HasSubject (fault : Fault) : Prop :=
  (∃ c, fault = .unknownSymbol c ∧ isLegal c = false) ∨
    ∀ c ∈ fault.subject.toList, isLexical c = true

theorem Lexeme.labelName_prefix (l : Lexeme) : l.labelName.toList <+: l.text.toList := by
  unfold labelName
  dsimp only
  split
  · rw [String.toList_ofList]
    exact List.dropLast_prefix _
  · exact List.prefix_rfl

theorem Piece.Causes.subject_prefix {l : Lexeme} {d : Diagnostic} (h : (Piece.lexeme l).Causes d) :
    d.fault.subject.toList <+: l.text.toList := by
  obtain ⟨-, ⟨-, hfault | hfault⟩ | ⟨-, hfault | hfault⟩⟩ := h <;> rw [hfault]
  · exact List.prefix_rfl
  · exact List.prefix_rfl
  · exact l.labelName_prefix
  · exact l.labelName_prefix

/-- What a piece of the source is the cause of. -/
theorem IsMunch.of_causes {afterOperand : Bool} {m : Munch} {rest : List Char} {table : Spellings}
    {lx : Lexer} {d : Diagnostic} (h : IsMunch afterOperand m rest)
    (hd : (lx.classify table m).Causes d) :
    d.line = some lx.cursor.line ∧ d.fault.subject.toList <+: m.text ∧ d.fault.HasSubject := by
  have hlexical := h.forall_isLexical
  have hlexeme {kind : Kind} (hm : m.shape.isLexical = true)
      (hd : (Piece.lexeme ⟨lx.cursor.line, String.ofList m.text, kind⟩).Causes d) :
      d.line = some lx.cursor.line ∧ d.fault.subject.toList <+: m.text ∧ d.fault.HasSubject := by
    have hbegins := hd.subject_prefix
    rw [String.toList_ofList] at hbegins
    exact ⟨hd.1, hbegins, .inr fun c hc => hlexical hm c (hbegins.subset hc)⟩
  cases h with
  | bang =>
    obtain rfl := hd
    exact ⟨rfl, by simp [Fault.subject], .inr (by simp [Fault.subject, isLexical])⟩
  | newline => obtain ⟨-, ⟨hkind, -⟩ | ⟨hkind, -⟩⟩ := hd <;> cases hkind
  | blank => exact hd.elim
  | illegal hc =>
    obtain rfl := hd
    exact ⟨rfl, by simp [Fault.subject], .inl ⟨_, rfl, hc⟩⟩
  | _ => exact hlexeme rfl hd

/-- The lines that are passed are counted. -/
theorem IsMunch.toNat_line_pass {afterOperand : Bool} {m : Munch} {rest : List Char}
    (h : IsMunch afterOperand m rest) (table : Spellings) (lx : Lexer)
    (hfit : lx.cursor.line.toNat + m.text.count '\n' < 2 ^ 32) :
    (lx.pass table m).cursor.line.toNat = lx.cursor.line.toNat + m.text.count '\n' := by
  rw [h.line_pass, UInt32.toNat_add, UInt32.toNat_ofNat', Nat.add_mod_mod, Nat.mod_eq_of_lt hfit]

/-- The pieces that are left lie where they are placed: `passed` is the text before the lexer. -/
theorem Lexer.liesAt_of_mem_placed (table : Spellings) (lx : Lexer) {passed : List Char}
    (hoffset : lx.cursor.offset = passed.length)
    (hline : lx.cursor.line.toNat = passed.count '\n' + 1)
    (hfit : (passed ++ lx.cursor.rest).count '\n' + 1 < 2 ^ 32) {x : Nat × Piece}
    (hx : x ∈ lx.placed table) {d : Diagnostic} (hd : x.2.Causes d) :
    d.LiesAt (passed ++ lx.cursor.rest) x.1 ∧ d.fault.HasSubject := by
  induction lx using munch_induction table generalizing passed with
  | done lx h => simp [placed_of_rest_eq_nil h] at hx
  | step lx m rest h hrest ih =>
    rw [placed_of_isMunch h hrest, List.mem_cons] at hx
    rcases hx with rfl | hx
    · obtain ⟨hdline, ⟨behind, htext⟩, hsubject⟩ := h.of_causes hd
      refine ⟨⟨passed, behind ++ rest, ?_, hoffset.symm, ?_⟩, hsubject⟩
      · rw [hrest, ← htext]
        simp only [List.append_assoc]
      · rw [hdline, Option.map_some, hline]
    · have htext : passed ++ lx.cursor.rest =
          (passed ++ m.text) ++ (lx.pass table m).cursor.rest := by
        rw [rest_pass hrest, hrest, List.append_assoc]
      rw [htext] at hfit ⊢
      refine ih ?_ ?_ hfit hx
      · rw [offset_pass, hoffset, List.length_append]
      · rw [List.count_append, List.count_append] at hfit
        rw [h.toNat_line_pass table lx (by omega), List.count_append]
        omega

/-! ## Diagnostics of a scan -/

namespace Draft

/-- The diagnostic that a piece adds. -/
def diagnostic? (d : Draft) : Piece → Option Diagnostic
  | .lexeme l => (d.fault? l).map fun fault => ⟨fault, some l.line⟩
  | .rejected diagnostic => some diagnostic
  | .blank => none

theorem diagnostics_add (d : Draft) (p : Piece) :
    (d.add p).diagnostics.toList = d.diagnostics.toList ++ (d.diagnostic? p).toList := by
  cases p with
  | lexeme l => exact d.diagnostics_addLexeme l
  | rejected diagnostic => exact d.toList_diagnostics_report diagnostic
  | blank => simp [add, diagnostic?]

theorem causes_of_fault? {d : Draft} {l : Lexeme} {fault : Fault} (h : d.fault? l = some fault) :
    (Piece.lexeme l).Causes ⟨fault, some l.line⟩ := by
  refine ⟨rfl, ?_⟩
  unfold fault? at h
  split at h
  · next hkind =>
    unfold identifierFault? at h
    split at h <;> cases h <;> simp [hkind]
  · next hkind =>
    split at h
    · obtain ⟨_, -, rfl⟩ := Option.map_eq_some_iff.1 h
      simp [hkind]
    · obtain ⟨_, -, rfl⟩ := Option.map_eq_some_iff.1 h
      simp [hkind]
  · cases h

theorem causes_of_diagnostic? {d : Draft} {p : Piece} {x : Diagnostic}
    (h : d.diagnostic? p = some x) : p.Causes x := by
  cases p with
  | lexeme l =>
    obtain ⟨fault, hfault, rfl⟩ := Option.map_eq_some_iff.1 h
    exact causes_of_fault? hfault
  | rejected diagnostic => exact (Option.some.inj h).symm
  | blank => cases h

/-- Each diagnostic that placed pieces add is caused by one of them, in their order. -/
theorem exists_causes {xs : List (Nat × Piece)} {R : Nat × Piece → Diagnostic → Prop}
    (hR : ∀ x ∈ xs, ∀ e, x.2.Causes e → R x e) (d : Draft) :
    ∃ causes found, causes.Sublist xs ∧ List.Forall₂ R causes found ∧
      ((xs.map Prod.snd).foldl add d).diagnostics.toList = d.diagnostics.toList ++ found := by
  induction xs generalizing d with
  | nil => exact ⟨[], [], .slnil, .nil, by simp⟩
  | cons x xs ih =>
    obtain ⟨causes, found, hsublist, hfound, hadded⟩ :=
      ih (fun y hy => hR y (List.mem_cons_of_mem _ hy)) (d.add x.2)
    rw [List.map_cons, List.foldl_cons, hadded, diagnostics_add]
    cases hx : d.diagnostic? x.2 with
    | none => exact ⟨causes, found, hsublist.cons x, hfound, by simp⟩
    | some e =>
      refine ⟨x :: causes, e :: found, hsublist.cons_cons x, .cons ?_ hfound, by simp⟩
      exact hR x (List.mem_cons_self ..) e (causes_of_diagnostic? hx)

end Draft

/-! ## Lines that hold a subject -/

theorem Source.exists_lineList?_of_infix {w : List Char} (hw : '\n' ∉ w)
    (before behind : List Char) :
    ∃ line, lineList? (before ++ w ++ behind) (before.count '\n' + 1) = some line ∧
      w <:+: line := by
  induction before with
  | nil =>
    refine ⟨_, lineList?_append_one hw behind, ?_⟩
    exact (List.prefix_append ..).isInfix
  | cons c before ih =>
    obtain ⟨line, hline, hinfix⟩ := ih
    by_cases hc : c = '\n'
    · subst hc
      refine ⟨line, ?_, hinfix⟩
      rw [List.count_cons_self]
      exact (@lineList?_append_newline [] (by simp) (before ++ w ++ behind) _).trans hline
    · have hc' : '\n' ∉ [c] := by simpa using Ne.symm hc
      rw [Layout.count_newline_cons hc]
      cases hn : before.count '\n' with
      | zero =>
        rw [hn, lineList?_one, Option.some.injEq] at hline
        refine ⟨_, lineList?_append_one hc' (before ++ w ++ behind), ?_⟩
        rw [hline]
        exact hinfix.trans (List.suffix_append ..).isInfix
      | succ n =>
        rw [hn] at hline
        exact ⟨line, (lineList?_append_add_two hc' (before ++ w ++ behind) n).trans hline, hinfix⟩

theorem infix_dropWhile {p : Char → Bool} {w cs : List Char} (h : w <:+: cs)
    (hw : ∀ c ∈ w, p c = false) : w <:+: cs.dropWhile p := by
  induction cs with
  | nil => exact h
  | cons c cs ih =>
    rw [List.dropWhile_cons]
    split
    · next hc =>
      rcases List.infix_cons_iff.1 h with hbegins | hinfix
      · -- a text that begins with a character of the class `p` is none of those asked for
        cases w with
        | nil => exact List.nil_infix
        | cons d w =>
          obtain rfl := (List.cons_prefix_cons.1 hbegins).1
          exact absurd (hw d (List.mem_cons_self ..)) (by simp [hc])
      · exact ih hinfix
    · exact h

/-- Trimming keeps what holds no white space. -/
theorem infix_trimList {w cs : List Char} (h : w <:+: cs)
    (hw : ∀ c ∈ w, Text.isWhiteSpace c = false) : w <:+: Text.trimList cs := by
  have hleft := infix_dropWhile h hw
  rw [← List.reverse_infix] at hleft
  have hboth := infix_dropWhile hleft fun c hc => hw c (List.mem_reverse.1 hc)
  rw [← List.reverse_infix, List.reverse_reverse] at hboth
  exact hboth

/-! ## Subjects -/

theorem Alphabet.toNat_of_isAlphanum {c : Char} (h : c.isAlphanum = true) :
    0x21 ≤ c.toNat ∧ c.toNat ≤ 0x7E := by
  simp only [Char.isAlphanum, Char.isAlpha, Char.isUpper, Char.isLower, Char.isDigit,
    Bool.or_eq_true, Bool.and_eq_true, decide_eq_true_eq, UInt32.le_iff_toNat_le, ge_iff_le] at h
  simp at h
  omega

/-- Lexical characters are visible characters of ASCII. -/
theorem Alphabet.toNat_of_isLexical {c : Char} (h : isLexical c = true) :
    0x21 ≤ c.toNat ∧ c.toNat ≤ 0x7E := by
  rw [isLexical, Bool.or_eq_true, Bool.or_eq_true, isSolo_iff, decide_eq_true_eq] at h
  rcases h with (h | h) | h
  · exact toNat_of_isAlphanum h
  · simp only [solo, List.mem_cons, List.not_mem_nil, or_false] at h
    rcases h with rfl | rfl | rfl | rfl | rfl | rfl | rfl | rfl | rfl | rfl | rfl <;> decide
  · simp only [List.mem_cons, List.not_mem_nil, or_false] at h
    rcases h with rfl | rfl | rfl | rfl | rfl <;> decide

theorem Alphabet.isWhiteSpace_eq_false_of_isLexical {c : Char} (h : isLexical c = true) :
    Text.isWhiteSpace c = false := by
  have hrange := toNat_of_isLexical h
  simp [Text.isWhiteSpace, Text.whiteSpaceRanges]
  omega

namespace Fault.HasSubject

variable {fault : Fault} (h : fault.HasSubject)
include h

theorem newline_not_mem : '\n' ∉ fault.subject.toList := by
  rcases h with ⟨c, rfl, hc⟩ | hlexical
  · simp only [subject, String.toList_singleton, List.mem_singleton]
    rintro rfl
    exact absurd hc (by decide)
  · exact newline_not_mem_of_isLexical hlexical

theorem isWhiteSpace_eq_false
    (hsymbol : ∀ c, fault = .unknownSymbol c → Text.isWhiteSpace c = false) :
    ∀ c ∈ fault.subject.toList, Text.isWhiteSpace c = false := by
  intro c hc
  rcases h with ⟨symbol, rfl, -⟩ | hlexical
  · simp only [subject, String.toList_singleton, List.mem_singleton] at hc
    exact hc ▸ hsymbol symbol rfl
  · exact isWhiteSpace_eq_false_of_isLexical (hlexical c hc)

end Fault.HasSubject

section

variable {R : Nat × Piece → Diagnostic → Prop} {xs : List (Nat × Piece)} {ds : List Diagnostic}

theorem exists_of_forall₂ (h : List.Forall₂ R xs ds) {d : Diagnostic} (hd : d ∈ ds) :
    ∃ x ∈ xs, R x d := by
  induction h with
  | nil => simp at hd
  | cons hx _ ih =>
    rcases List.mem_cons.1 hd with rfl | hd
    · exact ⟨_, List.mem_cons_self .., hx⟩
    · obtain ⟨y, hy, hR⟩ := ih hd
      exact ⟨y, List.mem_cons_of_mem _ hy, hR⟩

theorem pairwise_of_forall₂ {S : Nat × Piece → Nat × Piece → Prop}
    {T : Diagnostic → Diagnostic → Prop} (h : List.Forall₂ R xs ds)
    (hT : ∀ x y d e, R x d → R y e → S x y → T d e) (hxs : xs.Pairwise S) : ds.Pairwise T := by
  induction h with
  | nil => exact .nil
  | cons hx h ih =>
    obtain ⟨hhead, htail⟩ := List.pairwise_cons.1 hxs
    refine List.pairwise_cons.2 ⟨fun e he => ?_, ih htail⟩
    obtain ⟨y, hy, hR⟩ := exists_of_forall₂ h he
    exact hT _ y _ e hx hR (hhead y hy)

end

/-- What lies further behind lies on no earlier line. -/
theorem Diagnostic.LiesAt.reportedLine_le {d e : Diagnostic} {cs : List Char} {m n : Nat}
    (hd : d.LiesAt cs m) (he : e.LiesAt cs n) (h : m < n) : d.reportedLine ≤ e.reportedLine := by
  obtain ⟨before, behind, rfl, rfl, hdline⟩ := hd
  obtain ⟨before', behind', hcs, rfl, heline⟩ := he
  obtain ⟨l, hl, hlcount⟩ := Option.map_eq_some_iff.1 hdline
  obtain ⟨l', hl', hlcount'⟩ := Option.map_eq_some_iff.1 heline
  have hbegins : before <+: before' := by
    rw [List.append_assoc, List.append_assoc] at hcs
    have hleft := List.prefix_append before (d.fault.subject.toList ++ behind)
    rw [hcs] at hleft
    exact List.prefix_of_prefix_length_le hleft (List.prefix_append ..) (Nat.le_of_lt h)
  have hcount := hbegins.count_le '\n'
  rw [reportedLine, reportedLine, hl, hl']
  change (l.toNat : Int) ≤ l'.toNat
  omega

theorem Diagnostic.LiesAt.exists_line {d : Diagnostic} {cs : List Char} {offset : Nat} {n : UInt32}
    (h : d.LiesAt cs offset) (hsubject : d.fault.HasSubject) (hn : d.line = some n) :
    ∃ line, lineList? cs n.toNat = some line ∧ d.fault.subject.toList <:+: line := by
  obtain ⟨before, behind, rfl, -, hline⟩ := h
  rw [hn, Option.map_some, Option.some.injEq] at hline
  rw [hline]
  exact exists_lineList?_of_infix hsubject.newline_not_mem before behind

/-! ## The diagnostics of a source -/

/-- Pieces of the source cause the diagnostics, one each and in the order of the source, and each
diagnostic tells where its cause lies. -/
def CausedInOrder (table : Spellings) (source : String) (ds : List Diagnostic) : Prop :=
  ∃ causes, causes.Sublist ((Lexer.ofSource source).placed table) ∧
    (causes.Pairwise fun x y => x.1 < y.1) ∧
    List.Forall₂ (fun x d => x.2.Causes d ∧ d.LiesAt source.toList x.1) causes ds

/-- The rendered diagnostic shows `excerpt` behind the number `n` of its line. -/
def Diagnostic.ShowsLine (d : Diagnostic) (file content : String) (n : Nat) (excerpt : String) :
    Prop :=
  d.render file content = Excerpt.heading d.fault ++ "-> " ++ file ++ "\n" ++
    (Excerpt.bar n ++ (toString n ++ " | " ++ excerpt ++ "\n") ++ Excerpt.bar n)

theorem Diagnostic.showsLine_trim {d : Diagnostic} {n : UInt32} {content text : String}
    (hn : d.line = some n) (htext : line? content n.toNat = some text) (file : String) :
    d.ShowsLine file content n.toNat (Text.trim text) := by
  rw [ShowsLine, render, hn, Excerpt.body, Excerpt.shownLine, htext]
  rfl

theorem Diagnostic.ShowsLine.excerpt_eq {d : Diagnostic} {file content excerpt other : String}
    {n : Nat} (h : d.ShowsLine file content n excerpt) (h' : d.ShowsLine file content n other) :
    excerpt = other := by
  have htext := congrArg String.toList (h.symm.trans h')
  simpa [String.toList_inj] using htext

/-- **Diagnostics point to what caused them**, in the order of the source, and show it unless it is
white space that is trimmed. -/
theorem diagnostics_point_to_causes {table : Spellings} {source : String}
    {diagnostics : List Diagnostic} (hfit : source.toList.count '\n' ≤ 2 ^ 32 - 2)
    (h : analyzeWith table source = .error diagnostics) :
    (∃ found missing, diagnostics = found ++ missing ∧ CausedInOrder table source found ∧
      (∀ d ∈ found, d.line.isSome) ∧ (found.Pairwise fun d e => d.reportedLine ≤ e.reportedLine) ∧
      ∀ d ∈ missing, d.line = none) ∧
    ∀ d ∈ diagnostics, ∀ n, d.line = some n →
      ∃ text, line? source n.toNat = some text ∧ d.fault.subject.toList <:+: text.toList ∧
        ((∀ c, d.fault = .unknownSymbol c → Text.isWhiteSpace c = false) →
          ∀ file, ∃ excerpt, d.ShowsLine file source n.toNat excerpt ∧
            d.fault.subject.toList <:+: excerpt.toList) := by
  obtain ⟨-, rfl⟩ := Draft.finish_eq_error_iff.1 h
  have hplaced : ∀ x ∈ (Lexer.ofSource source).placed table, ∀ d, x.2.Causes d →
      x.2.Causes d ∧ d.LiesAt source.toList x.1 ∧ d.fault.HasSubject := by
    intro x hx d hd
    have hstart : (Lexer.ofSource source).cursor.offset = ([] : List Char).length := rfl
    refine ⟨hd, Lexer.liesAt_of_mem_placed table (Lexer.ofSource source) hstart rfl ?_ hx hd⟩
    change source.toList.count '\n' + 1 < 2 ^ 32
    omega
  obtain ⟨causes, found, hsublist, hcauses, hfound⟩ := Draft.exists_causes hplaced Draft.empty
  rw [Lexer.map_snd_placed, ← Draft.scan_eq_foldl] at hfound
  have hpairwise := (Lexer.pairwise_placed table (Lexer.ofSource source)).sublist hsublist
  have hall : (Draft.scan table source).allDiagnostics =
      found ++ (Draft.scan table source).undeclaredLabels := by
    rw [Draft.allDiagnostics, hfound]
    rfl
  have hmissing : ∀ d ∈ (Draft.scan table source).undeclaredLabels, d.line = none := by
    intro d hd
    obtain ⟨label, -, rfl⟩ := List.mem_map.1 hd
    rfl
  rw [hall]
  refine ⟨⟨found, _, rfl, ⟨causes, hsublist, hpairwise, hcauses.imp fun x d hR => ⟨hR.1, hR.2.1⟩⟩,
    fun d hd => ?_, ?_, hmissing⟩, fun d hd n hn => ?_⟩
  · obtain ⟨x, -, -, ⟨_, _, -, -, hline⟩, -⟩ := exists_of_forall₂ hcauses hd
    rw [← Option.isSome_map, hline]
    rfl
  · exact pairwise_of_forall₂ hcauses (fun x y d e hx hy => hx.2.1.reportedLine_le hy.2.1) hpairwise
  · rcases List.mem_append.1 hd with hd | hd
    · obtain ⟨x, -, -, hplace, hsubject⟩ := exists_of_forall₂ hcauses hd
      obtain ⟨line, hline, hinfix⟩ := hplace.exists_line hsubject hn
      have htext : line? source n.toNat = some (String.ofList line) := by
        rw [line?, hline]
        rfl
      refine ⟨_, htext, by rwa [String.toList_ofList], fun hsymbol file =>
        ⟨_, Diagnostic.showsLine_trim hn htext file, ?_⟩⟩
      rw [Text.trim, String.toList_ofList, String.toList_ofList]
      exact infix_trimList hinfix (hsubject.isWhiteSpace_eq_false hsymbol)
    · rw [hmissing d hd] at hn
      cases hn

/-- Faults of three sorts, the last of which has no line, and the line that the second one is shown
with. -/
theorem diagnostics_point_to_causes_of_fragment :
    "a\n goto L !".toList.count '\n' ≤ 2 ^ 32 - 2 ∧
      analyzeWith .standard "a\n goto L !" = .error
        [⟨.variableUndeclared "a", some 1⟩, ⟨.expectedSymbol "!" "=", some 2⟩,
          ⟨.labelNeverDeclared "L", none⟩] ∧
      CausedInOrder .standard "a\n goto L !"
        [⟨.variableUndeclared "a", some 1⟩, ⟨.expectedSymbol "!" "=", some 2⟩] ∧
      line? "a\n goto L !" 2 = some " goto L !" ∧ "!".toList <:+: "goto L !".toList ∧
      ∀ file, (Diagnostic.mk (.expectedSymbol "!" "=") (some 2)).ShowsLine file "a\n goto L !" 2
        "goto L !" := by
  have hfit : "a\n goto L !".toList.count '\n' ≤ 2 ^ 32 - 2 := by decide
  have h : analyzeWith .standard "a\n goto L !" = .error
      [⟨.variableUndeclared "a", some 1⟩, ⟨.expectedSymbol "!" "=", some 2⟩,
        ⟨.labelNeverDeclared "L", none⟩] := by cbv
  obtain ⟨⟨found, missing, hsplit, hcaused, hlocated, -, hmissing⟩, hlines⟩ :=
    diagnostics_point_to_causes hfit h
  have hfound : found = [⟨.variableUndeclared "a", some 1⟩, ⟨.expectedSymbol "!" "=", some 2⟩] := by
    have hnone : missing.filter (fun d => d.line.isSome) = [] :=
      List.filter_eq_nil_iff.2 fun d hd => by simp [hmissing d hd]
    have hfilter := congrArg (List.filter fun d => d.line.isSome) hsplit
    rw [List.filter_append, List.filter_eq_self.2 hlocated, hnone, List.append_nil] at hfilter
    exact hfilter.symm
  obtain ⟨-, -, -, hshown⟩ := hlines ⟨.expectedSymbol "!" "=", some 2⟩ (by simp) 2 rfl
  have htext : line? "a\n goto L !" 2 = some " goto L !" := by cbv
  have htrim : Text.trim " goto L !" = "goto L !" := by cbv
  have hshows (file : String) : (Diagnostic.mk (.expectedSymbol "!" "=") (some 2)).ShowsLine file
      "a\n goto L !" 2 "goto L !" := by
    have hline : (Diagnostic.mk (.expectedSymbol "!" "=") (some 2)).line = some 2 := rfl
    have hshows := Diagnostic.showsLine_trim hline htext file
    rw [htrim] at hshows
    exact hshows
  obtain ⟨excerpt, hexcerpt, hinfix⟩ := hshown (by simp) "f"
  obtain rfl := (hshows "f").excerpt_eq hexcerpt
  exact ⟨hfit, h, hfound ▸ hcaused, htext, hinfix, hshows⟩

end Lexis
