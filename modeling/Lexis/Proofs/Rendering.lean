import Lexis.Proofs.Legibility
import Lexis.Proofs.Places
import Lexis.Proofs.Quoted
import Lexis.Proofs.Verdict

/-!
# The layout of rendered diagnostics

A rendered diagnostic keeps its lines and columns, whatever content it is shown with. All that this
takes is that no text in it breaks a line, and of a character that is not known not even that, since
the message quotes it.

* `Source.piece?`, `Source.line?_eq_piece?`: the line of a number is a piece between newlines;
* `Text.Trims`, **`Text.trims_trimList`**, `Text.Trims.eq_trimList`: what trimming leaves of a text,
  and nothing else;
* `Text.HasLines`, `Text.column`: the lines of a text, and the column of a mark;
* `Fault.texts`, `Fault.OnOneLine`: the texts that a fault is about, none of which holds a newline;
* `Excerpt.headingRow`, `Excerpt.barRow`, `Excerpt.shownText`: the parts of a rendered diagnostic,
  with **`Diagnostic.hasLines_render`**: they make it up;
* **`onOneLine_of_mem_diagnostics`**: the diagnostics of a source break no line;
* **`Diagnostic.render_layout`**: the layout of a rendered diagnostic.
-/

namespace Lexis

open Text

/-! ## Pieces between newlines -/

namespace Source

/-- The piece of number `n`, counted from 1, of the content cut at its newlines. -/
def piece? (content : String) : Nat → Option (List Char)
  | 0 => none
  | n + 1 => (content.toList.splitOn '\n')[n]?

theorem lineList?_add_one (cs : List Char) (n : Nat) :
    lineList? cs (n + 1) = (cs.splitOn '\n')[n]? := by
  induction n generalizing cs with
  | zero =>
    by_cases hmem : '\n' ∈ cs
    · obtain ⟨line, rest, rfl, hline⟩ := List.eq_append_cons_of_mem hmem
      rw [lineList?_append_newline_one hline, List.splitOn_append_cons_self_of_not_mem hline]
      rfl
    · have hline := lineList?_append_one hmem []
      rw [List.append_nil, List.takeWhile_nil, List.append_nil] at hline
      rw [hline, List.splitOn_eq_singleton hmem]
      rfl
  | succ n ih =>
    by_cases hmem : '\n' ∈ cs
    · obtain ⟨line, rest, rfl, hline⟩ := List.eq_append_cons_of_mem hmem
      rw [lineList?_append_newline hline, List.splitOn_append_cons_self_of_not_mem hline, ih]
      rfl
    · have hline := lineList?_append_add_two hmem [] n
      rw [List.append_nil] at hline
      rw [hline, List.splitOn_eq_singleton hmem]
      rfl

theorem line?_eq_piece? (content : String) (n : Nat) :
    line? content n = (piece? content n).map String.ofList := by
  cases n with
  | zero => rw [line?, lineList?_zero]; rfl
  | succ n => rw [line?, lineList?_add_one]; rfl

theorem newline_not_mem_lineList? {cs line : List Char} {n : Nat}
    (h : lineList? cs n = some line) : '\n' ∉ line := by
  fun_induction lineList? cs n with
  | case1 => cases h
  | case2 cs =>
    obtain rfl := Option.some.inj h
    intro hmem
    simpa using List.mem_takeWhile_imp hmem
  | case3 => cases h
  | case4 _ _ _ _ _ ih => exact ih h

end Source

/-! ## Trimming -/

namespace Text

/-- The second text is what is left of the first one without the white space at its ends. -/
structure Trims (cs core : List Char) : Prop where
  exists_eq : ∃ left right, cs = left ++ core ++ right ∧ (∀ c ∈ left, isWhiteSpace c = true) ∧
    ∀ c ∈ right, isWhiteSpace c = true
  head : Ends isWhiteSpace core
  last : Ends isWhiteSpace core.reverse

theorem ends_of_append {p : Char → Bool} {cs ds : List Char} (h : Ends p (cs ++ ds)) :
    Ends p cs := fun c hc => h c (List.mem_head?_append_of_mem_head? hc)

/-- **Trimming takes away white space at the ends, and all of it.** -/
theorem trims_trimList (cs : List Char) : Trims cs (trimList cs) := by
  have hright : trimList cs ++ (cs.dropWhile isWhiteSpace).rtakeWhile isWhiteSpace =
      cs.dropWhile isWhiteSpace := List.rdropWhile_append_rtakeWhile ..
  refine ⟨⟨cs.takeWhile isWhiteSpace, (cs.dropWhile isWhiteSpace).rtakeWhile isWhiteSpace, ?_,
    fun c hc => List.mem_takeWhile_imp hc, fun c hc => List.mem_rtakeWhile_imp hc⟩, ?_, ?_⟩
  · rw [List.append_assoc, hright, List.takeWhile_append_dropWhile]
  · have hhead := ends_dropWhile isWhiteSpace cs
    rw [← hright] at hhead
    exact ends_of_append hhead
  · rw [trimList, List.reverse_reverse]
    exact ends_dropWhile _ _

/-- What is left is the trimmed text. -/
theorem Trims.eq_trimList {cs core : List Char} (h : Trims cs core) : core = trimList cs := by
  obtain ⟨left, right, rfl, hleft, hright⟩ := h.exists_eq
  cases core with
  | nil =>
    have hall : (left ++ [] ++ right).dropWhile isWhiteSpace = [] := by
      rw [List.append_nil, List.dropWhile_eq_nil_iff]
      exact List.forall_mem_append.2 ⟨hleft, hright⟩
    rw [trimList, hall]
    rfl
  | cons c core =>
    have hhead : Ends isWhiteSpace (c :: core ++ right) := h.head
    have hright' : ∀ c ∈ right.reverse, isWhiteSpace c = true := by simpa using hright
    rw [trimList, List.append_assoc, dropWhile_eq_of_ends hleft hhead, List.reverse_append,
      dropWhile_eq_of_ends hright' h.last, List.reverse_reverse]

theorem Trims.subset {cs core : List Char} (h : Trims cs core) : core ⊆ cs := by
  obtain ⟨left, right, rfl, -, -⟩ := h.exists_eq
  intro c hc
  simp [hc]

/-- The text is made up of these lines, each of which ends in a newline, and of nothing else. -/
def HasLines (s : String) (rows : List String) : Prop := s = Report.ofRows rows ∧ lines s = rows

theorem hasLines_ofRows {rows : List String} (h : ∀ row ∈ rows, '\n' ∉ row.toList) :
    HasLines (Report.ofRows rows) rows :=
  ⟨rfl, lines_ofRows h⟩

/-- The first column of the row, counted from 0, in which the mark stands. -/
def column (mark : Char) (row : String) : Option Nat := row.toList.idxOf? mark

theorem column_eq {mark : Char} {row : String} {before behind : List Char}
    (hrow : row.toList = before ++ mark :: behind) (hmark : mark ∉ before) :
    column mark row = some before.length := by
  have hnone : List.idxOf? mark before = none := List.idxOf?_eq_none_iff.2 hmark
  have hsome : List.idxOf? mark (mark :: behind) = some 0 := by simp [List.idxOf?_cons]
  rw [column, hrow, List.idxOf?, List.findIdx?_append, ← List.idxOf?, hnone, hsome]
  simp

end Text

/-! ## Headings -/

/-- The texts that the fault is about. -/
def Fault.texts : Fault → List String
  | .unknownSymbol _ => []
  | .expectedSymbol found expected => [found, expected]
  | .variableRedeclared name | .variableUndeclared name => [name]
  | .labelReferencedAgain name | .labelRedeclared name | .labelNeverDeclared name => [name]

/-- No text that the fault is about holds a newline. A character that is not known may be one. -/
def Fault.OnOneLine (fault : Fault) : Prop := ∀ s ∈ fault.texts, '\n' ∉ s.toList

namespace Excerpt

/-- The first line of a rendered diagnostic. -/
def headingRow (fault : Fault) : String :=
  "Error: " ++ fault.name ++ " (" ++ fault.tip?.getD fault.message ++ ")"

/-- **The heading breaks no line.** A tip holds the texts of the fault as they are, but of an unknown
character there is only the message, which quotes it. -/
theorem newline_not_mem_headingRow {fault : Fault} (h : fault.OnOneLine) :
    '\n' ∉ (headingRow fault).toList := by
  have hname : '\n' ∉ fault.name.toList := by cases fault <;> simp [Fault.name]
  have htext : '\n' ∉ (fault.tip?.getD fault.message).toList := by
    cases fault with
    | unknownSymbol symbol =>
      have hquote : '\n' ∉ (quoteChar isPrintable symbol).toList := by
        rw [quoteChar, String.toList_ofList]
        exact newline_not_mem_quote _ (by decide) _
      change '\n' ∉ ("unknown symbol: " ++ quoteChar isPrintable symbol).toList
      rw [String.toList_append, List.mem_append, not_or]
      exact ⟨by decide, hquote⟩
    | _ => simp_all [Fault.OnOneLine, Fault.texts, Fault.tip?]
  simp [headingRow, hname, htext]

/-- A bar on a line of its own. -/
def barRow (n : Nat) : String := alignRight ((toString n).length + 2) "|"

theorem toList_barRow (n : Nat) :
    (barRow n).toList = List.replicate ((toString n).length + 1) ' ' ++ ['|'] := by
  rw [barRow, toList_alignRight]
  rfl

theorem newline_not_mem_barRow (n : Nat) : '\n' ∉ (barRow n).toList := by
  simp [toList_barRow]

theorem column_barRow (n : Nat) : column '|' (barRow n) = some ((toString n).length + 1) := by
  have hspaces : '|' ∉ List.replicate ((toString n).length + 1) ' ' := by simp
  rw [column_eq (toList_barRow n) hspaces, List.length_replicate]

theorem column_shownRow (n : Nat) (excerpt : String) :
    column '|' (toString n ++ " | " ++ excerpt) = some ((toString n).length + 1) := by
  have hrow : (toString n ++ " | " ++ excerpt).toList =
      ((toString n).toList ++ [' ']) ++ '|' :: (' ' :: excerpt.toList) := by
    simp
  have hnumber : '|' ∉ (toString n).toList ++ [' '] := by
    rw [List.mem_append, not_or]
    exact ⟨fun hmem => absurd (isDigit_of_mem_toString hmem) (by decide), by decide⟩
  rw [column_eq hrow hnumber, List.length_append, String.length_toList, List.length_singleton]

theorem newline_not_mem_shownRow (n : Nat) {excerpt : String} (h : '\n' ∉ excerpt.toList) :
    '\n' ∉ (toString n ++ " | " ++ excerpt).toList := by
  rw [String.toList_append, String.toList_append, List.mem_append, List.mem_append, not_or, not_or]
  exact ⟨⟨(isField_toString n).newline, by decide⟩, h⟩

/-- The line of the content that a rendered diagnostic shows. -/
def shownText (content : String) (n : Nat) : String := trim ((Source.line? content n).getD "")

theorem newline_not_mem_shownText (content : String) (n : Nat) :
    '\n' ∉ (shownText content n).toList := by
  have hline : '\n' ∉ ((Source.line? content n).getD "").toList := by
    cases h : Source.line? content n with
    | none => decide
    | some text =>
      obtain ⟨line, hline, rfl⟩ := Option.map_eq_some_iff.1 h
      rw [Option.getD_some, String.toList_ofList]
      exact Source.newline_not_mem_lineList? hline
  rw [shownText, trim, String.toList_ofList]
  exact fun hmem => hline ((trims_trimList _).subset hmem)

end Excerpt

open Excerpt

/-- The lines of a rendered diagnostic. -/
def Diagnostic.rows (d : Diagnostic) (file content : String) : List String :=
  [headingRow d.fault, "-> " ++ file] ++
    match d.line with
    | none => ["   (whole program)"]
    | some n =>
      [barRow n.toNat, toString n.toNat ++ " | " ++ shownText content n.toNat, barRow n.toNat]

theorem Diagnostic.render_eq_ofRows (d : Diagnostic) (file content : String) :
    d.render file content = Report.ofRows (d.rows file content) := by
  rw [← String.toList_inj]
  rcases d with ⟨fault, line | line⟩ <;>
    simp [render, heading, headingRow, body, bar, barRow, shownLine, shownText, rows, Report.ofRows]

/-- **A rendered diagnostic is made up of its lines**, and no text in it breaks one of them. -/
theorem Diagnostic.hasLines_render {d : Diagnostic} {file : String} (hfault : d.fault.OnOneLine)
    (hfile : '\n' ∉ file.toList) (content : String) :
    HasLines (d.render file content) (d.rows file content) := by
  rw [render_eq_ofRows]
  refine hasLines_ofRows (List.forall_mem_append.2 ⟨?_, ?_⟩)
  · simp [newline_not_mem_headingRow hfault, hfile]
  · cases d.line with
    | none => exact List.forall_mem_singleton.2 (by decide)
    | some n =>
      have hbar := newline_not_mem_barRow n.toNat
      have hshown := newline_not_mem_shownRow n.toNat (newline_not_mem_shownText content n.toNat)
      exact List.forall_mem_cons.2 ⟨hbar, List.forall_mem_cons.2
        ⟨hshown, List.forall_mem_singleton.2 hbar⟩⟩

/-! ## Diagnostics of a source -/

theorem Fault.texts_of_topic {fault : Fault} (h : fault.topic ≠ .character) :
    fault.texts = [fault.subject] := by
  cases fault with
  | unknownSymbol | expectedSymbol => exact absurd rfl h
  | _ => rfl

theorem IsMunch.onOneLine_of_classify {afterOperand : Bool} {m : Munch} {rest : List Char}
    {table : Spellings} {lx : Lexer} {d : Diagnostic} (h : IsMunch afterOperand m rest)
    (hd : lx.classify table m = .rejected d) : d.fault.OnOneLine := by
  cases h <;> cases hd <;> simp [Fault.OnOneLine, Fault.texts]

theorem Piece.Causes.topic_ne_character {l : Lexeme} {d : Diagnostic}
    (h : (Piece.lexeme l).Causes d) : d.fault.topic ≠ .character := by
  obtain ⟨-, ⟨-, hfault | hfault⟩ | ⟨-, hfault | hfault⟩⟩ := h <;> rw [hfault] <;> nofun

/-- What a piece of a source is the cause of breaks no line. -/
theorem Piece.Causes.onOneLine {p : Piece} {d : Diagnostic} (h : p.Causes d) (table : Spellings)
    (lx : Lexer) (hp : p ∈ lx.pieces table) : d.fault.OnOneLine := by
  cases p with
  | lexeme l =>
    have htext := (Lexer.spelled_of_mem_pieces table lx (mem_lexemes_iff.2 hp)).isField_text.newline
    have hbegins := h.subject_prefix
    rw [Fault.OnOneLine, Fault.texts_of_topic h.topic_ne_character, List.forall_mem_singleton]
    exact fun hmem => htext (hbegins.subset hmem)
  | rejected e =>
    obtain rfl := h
    exact Lexer.forall_mem_pieces (P := fun p => ∀ d, p = .rejected d → d.fault.OnOneLine) table
      (fun _ _ _ hm _ hd => hm.onOneLine_of_classify hd) lx _ hp d rfl
  | blank => exact h.elim

theorem onOneLine_of_mem_missingLabels {table : Spellings} {ls : List Lexeme}
    (hspelled : ∀ l ∈ ls, l.Spelled table) {d : Diagnostic} (hd : d ∈ missingLabels ls) :
    d.fault.OnOneLine := by
  obtain ⟨name, hname, rfl⟩ := List.mem_map.1 hd
  have hmem := List.mem_eraseDups.1 (List.mem_filter.1 hname).1
  exact List.forall_mem_singleton.2 (isField_of_mem_symbolNames hspelled hmem).newline

/-- **The diagnostics of a source break no line.** -/
theorem onOneLine_of_mem_diagnostics {table : Spellings} {source : String}
    {diagnostics : List Diagnostic} (h : analyzeWith table source = .error diagnostics)
    {d : Diagnostic} (hd : d ∈ diagnostics) : d.fault.OnOneLine := by
  obtain ⟨-, rfl⟩ := Draft.finish_eq_error_iff.1 h
  have hpieces : ∀ x ∈ (Lexer.ofSource source).placed table,
      ∀ e, x.2.Causes e → e.fault.OnOneLine := by
    intro x hx e he
    refine he.onOneLine table (Lexer.ofSource source) ?_
    rw [← Lexer.map_snd_placed]
    exact List.mem_map_of_mem hx
  obtain ⟨causes, found, -, hfound, hadded⟩ := Draft.exists_causes hpieces Draft.empty
  rw [Lexer.map_snd_placed, ← Draft.scan_eq_foldl] at hadded
  rcases List.mem_append.1 hd with hd | hd
  · rw [hadded] at hd
    obtain ⟨x, -, hx⟩ := exists_of_forall₂ hfound hd
    exact hx
  · rw [(Draft.reachable_scan table source).undeclaredLabels_eq, Draft.lexemes_scan] at hd
    exact onOneLine_of_mem_missingLabels (fun l hl => Lexer.spelled_of_mem_pieces _ _ hl) hd

/-- **A rendered diagnostic keeps its layout, whatever content it is shown with**: three lines
without a number of a line, else five, with their bars in one column. -/
theorem Diagnostic.render_layout :
    (∀ (source : String) (diagnostics : List Diagnostic), analyze source = .error diagnostics →
      ∀ d ∈ diagnostics, d.fault.OnOneLine) ∧
    ∀ (d : Diagnostic) (file content : String), d.fault.OnOneLine → '\n' ∉ file.toList →
      (d.line = none → HasLines (d.render file content)
        [headingRow d.fault, "-> " ++ file, "   (whole program)"]) ∧
      ∀ n, d.line = some n → ∃ bar excerpt,
        HasLines (d.render file content)
          [headingRow d.fault, "-> " ++ file, bar, toString n.toNat ++ " | " ++ excerpt, bar] ∧
        bar.toList = List.replicate ((toString n.toNat).length + 1) ' ' ++ ['|'] ∧
        column '|' bar = some ((toString n.toNat).length + 1) ∧
        column '|' (toString n.toNat ++ " | " ++ excerpt) = some ((toString n.toNat).length + 1) ∧
        (∀ piece, Source.piece? content n.toNat = some piece → Trims piece excerpt.toList) ∧
        (Source.piece? content n.toNat = none → excerpt = "") := by
  refine ⟨fun source diagnostics h d hd => onOneLine_of_mem_diagnostics h hd,
    fun d file content hfault hfile => ?_⟩
  have hlines := hasLines_render hfault hfile content
  refine ⟨fun hline => ?_, fun n hline => ⟨barRow n.toNat, shownText content n.toNat, ?_,
    toList_barRow _, column_barRow _, column_shownRow _ _, fun piece hpiece => ?_, fun hpiece => ?_⟩⟩
  · rwa [rows, hline] at hlines
  · rwa [rows, hline] at hlines
  · rw [shownText, Source.line?_eq_piece?, hpiece, Option.map_some, Option.getD_some, trim,
      String.toList_ofList, String.toList_ofList]
    exact trims_trimList piece
  · rw [shownText, Source.line?_eq_piece?, hpiece]
    rfl

/-- A fault without a line, an unknown character that is a newline on a line of two digits that the
content lacks, and a fault on a line with white space at its ends. -/
theorem Diagnostic.render_layout_of_missing_line :
    HasLines ((Diagnostic.mk (.labelNeverDeclared "L") none).render "f" "goto L")
      [headingRow (.labelNeverDeclared "L"), "-> f", "   (whole program)"] ∧
    (∃ bar, HasLines ((Diagnostic.mk (.unknownSymbol '\n') (some 12)).render "f" "a\nb")
      [headingRow (.unknownSymbol '\n'), "-> f", bar, "12 | ", bar] ∧ column '|' bar = some 3) ∧
    ∃ bar, HasLines
        ((Diagnostic.mk (.variableUndeclared "x") (some 2)).render "f" "a\n\t x = 1 \r\nb")
        [headingRow (.variableUndeclared "x"), "-> f", bar, "2 | x = 1", bar] ∧
      column '|' bar = some 2 := by
  have hlayout (fault : Fault) (hfault : fault.OnOneLine) (line : Option UInt32) (content : String) :=
    render_layout.2 ⟨fault, line⟩ "f" content hfault (by decide)
  have hmissing := (hlayout (.labelNeverDeclared "L") (by simp [Fault.OnOneLine, Fault.texts]) none
    "goto L").1 rfl
  obtain ⟨bar, excerpt, hlines, -, hbar, -, -, hnone⟩ := (hlayout (.unknownSymbol '\n')
    (by simp [Fault.OnOneLine, Fault.texts]) (some 12) "a\nb").2 12 rfl
  obtain rfl := hnone (by decide)
  obtain ⟨bar', excerpt, hlines', -, hbar', -, htrims, -⟩ := (hlayout (.variableUndeclared "x")
    (by simp [Fault.OnOneLine, Fault.texts]) (some 2) "a\n\t x = 1 \r\nb").2 2 rfl
  have hpiece : Source.piece? "a\n\t x = 1 \r\nb" 2 = some "\t x = 1 \r".toList := by decide
  obtain rfl : excerpt = "x = 1" := by
    rw [← String.toList_inj, (htrims _ hpiece).eq_trimList]
    decide
  exact ⟨hmissing, ⟨bar, hlines, hbar⟩, bar', hlines', hbar'⟩

end Lexis
