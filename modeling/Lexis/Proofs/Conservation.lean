import Lexis.Source
import Lexis.Proofs.Draft
import Lexis.Proofs.Layout

/-!
# The tokens of a line are the line

An analysis holds all that its source holds but blanks, and every token lies on the line that its
text comes from.

* `Lexeme.onLine`, `Lexeme.lineText`: the lexemes of a line, and their text without the newline;
* `withoutBlanks`: a text without spaces and tabs;
* `ClosedByNewline`: the only newline comes last;
* `Covers`, `Layout.covers`: pieces that are laid out cover the lines of their text;
* **`tokens_cover_lines`**: the tokens of an analysis cover the lines of its source.
-/

namespace Lexis

open Alphabet Source

/-- The lexemes on line `n`. -/
def Lexeme.onLine (ls : List Lexeme) (n : Nat) : List Lexeme := ls.filter fun l => l.line.toNat = n

/-- The texts of the lexemes but newlines, one behind the other. -/
def Lexeme.lineText (ls : List Lexeme) : String :=
  String.join ((ls.filter fun l => !l.isNewline).map Lexeme.text)

/-- The text without spaces and tabs. -/
def withoutBlanks (text : String) : String :=
  String.ofList (text.toList.filter fun c => !isBlank c)

/-- There is one newline, and it comes last. -/
def ClosedByNewline (ls : List Lexeme) : Prop :=
  ∃ body last, ls = body ++ [last] ∧ last.isNewline = true ∧ ∀ l ∈ body, l.isNewline = false

/-! ## Lines of a text that goes on -/

section

variable {text : List Char} (htext : '\n' ∉ text) (cs : List Char)
include htext

theorem Source.lineList?_append_one :
    lineList? (text ++ cs) 1 = some (text ++ cs.takeWhile (· ≠ '\n')) := by
  rw [lineList?_one, List.takeWhile_append_of_pos (forall_mem_ne_newline htext)]

theorem Source.lineList?_append_add_two (n : Nat) :
    lineList? (text ++ cs) (n + 2) = lineList? cs (n + 2) := by
  rw [lineList?, lineList?, List.dropWhile_append_of_pos (forall_mem_ne_newline htext)]

end

/-! ## Lexemes on a line -/

section

variable {l : Lexeme} {ls : List Lexeme} {n : Nat}

theorem Lexeme.onLine_cons_of_eq (h : l.line.toNat = n) :
    onLine (l :: ls) n = l :: onLine ls n := by
  simp [onLine, h]

theorem Lexeme.onLine_cons_of_ne (h : l.line.toNat ≠ n) : onLine (l :: ls) n = onLine ls n := by
  simp [onLine, h]

theorem Lexeme.onLine_eq_nil (h : ∀ l ∈ ls, n < l.line.toNat) : onLine ls n = [] := by
  refine List.filter_eq_nil_iff.2 fun l hl heq => ?_
  have := h l hl
  simp only [decide_eq_true_eq] at heq
  omega

theorem Lexeme.lineText_cons (h : l.isNewline = false) :
    lineText (l :: ls) = l.text ++ lineText ls := by
  simp [lineText, h]

theorem ClosedByNewline.cons (h : ClosedByNewline ls) (hl : l.isNewline = false) :
    ClosedByNewline (l :: ls) := by
  obtain ⟨body, last, rfl, hlast, hbody⟩ := h
  exact ⟨l :: body, last, rfl, hlast, by simpa [hl] using hbody⟩

end

/-! ## Laid out pieces cover their lines -/

/-- The lexemes are those of line `j + 1` of the text. -/
structure Covers (cs : List Char) (j : Nat) (ls : List Lexeme) : Prop where
  text : ∀ line, lineList? cs (j + 1) = some line →
    Lexeme.lineText ls = String.ofList (line.filter fun c => !isBlank c)
  closed : j < cs.count '\n' → ClosedByNewline ls
  unclosed : cs.count '\n' ≤ j → ∀ l ∈ ls, l.isNewline = false
  empty : lineList? cs (j + 1) = none → ls = []

namespace Covers

variable {text cs : List Char} {j : Nat} {l : Lexeme} {ls : List Lexeme}

theorem nil (j : Nat) : Covers [] j [] where
  text line hline := by
    cases j with
    | zero =>
      obtain rfl : [] = line := by simpa [lineList?_one] using hline
      rfl
    | succ j => simp [lineList?] at hline
  closed h := absurd h (Nat.not_lt_zero j)
  unclosed := by simp
  empty _ := rfl

/-- Text without a newline goes to the first line, and a lexeme with it. -/
theorem lexeme (hlexical : ∀ c ∈ text, isLexical c = true) (hl : l.text = String.ofList text)
    (h : Covers cs 0 ls) : Covers (text ++ cs) 0 (l :: ls) := by
  have htext := newline_not_mem_of_isLexical hlexical
  have hnewline := Lexeme.isNewline_of_isLexical hlexical hl
  constructor
  · intro line hline
    rw [lineList?_append_one htext, Option.some.injEq] at hline
    rw [← hline, List.filter_append, filter_not_isBlank_of_isLexical hlexical, String.ofList_append,
      Lexeme.lineText_cons hnewline, hl, h.text _ (lineList?_one cs)]
  · rw [count_newline_append htext]
    exact fun hlt => (h.closed hlt).cons hnewline
  · rw [count_newline_append htext]
    exact fun hle => by simpa [hnewline] using h.unclosed hle
  · rw [lineList?_append_one htext]
    exact fun hnone => nomatch hnone

theorem blank {c : Char} (hc : isBlank c = true) (h : Covers cs 0 ls) : Covers (c :: cs) 0 ls := by
  have htext : '\n' ∉ [c] := by simpa using (ne_newline_of_isBlank hc).symm
  constructor
  · intro line hline
    rw [← List.singleton_append, lineList?_append_one htext, Option.some.injEq] at hline
    rw [← hline, List.singleton_append, List.filter_cons_of_neg (by simp [hc]),
      h.text _ (lineList?_one cs)]
  · rw [← List.singleton_append, count_newline_append htext]
    exact h.closed
  · rw [← List.singleton_append, count_newline_append htext]
    exact h.unclosed
  · rw [← List.singleton_append, lineList?_append_one htext]
    exact fun hnone => nomatch hnone

/-- Text without a newline leaves the lines after the first as they are. -/
theorem append (htext : '\n' ∉ text) (h : Covers cs (j + 1) ls) : Covers (text ++ cs) (j + 1) ls := by
  constructor
  · rw [lineList?_append_add_two htext]
    exact h.text
  · rw [count_newline_append htext]
    exact h.closed
  · rw [count_newline_append htext]
    exact h.unclosed
  · rw [lineList?_append_add_two htext]
    exact h.empty

theorem newline (hl : l.isNewline = true) : Covers ('\n' :: cs) 0 [l] := by
  have hline : lineList? ('\n' :: cs) 1 = some [] := by simp [lineList?_one]
  constructor
  · intro line h
    rw [hline, Option.some.injEq] at h
    subst h
    simp [Lexeme.lineText, hl, String.join_nil]
  · exact fun _ => ⟨[], l, rfl, hl, by simp⟩
  · rw [List.count_cons_self]
    exact fun hle => absurd hle (by omega)
  · rw [hline]
    exact fun hnone => nomatch hnone

/-- Behind a newline the lines are counted anew. -/
theorem newline_succ (h : Covers cs j ls) : Covers ('\n' :: cs) (j + 1) ls := by
  have hline : lineList? ('\n' :: cs) (j + 2) = lineList? cs (j + 1) :=
    @lineList?_append_newline [] (by simp) cs j
  constructor
  · rw [hline]
    exact h.text
  · rw [List.count_cons_self]
    exact fun hlt => h.closed (by omega)
  · rw [List.count_cons_self]
    exact fun hle => h.unclosed (by omega)
  · rw [hline]
    exact h.empty

end Covers

namespace Layout

variable {line : UInt32} {cs : List Char} {ps : List Piece}

theorem pairwise_line (h : Layout line cs ps) (hfit : line.toNat + cs.count '\n' < 2 ^ 32) :
    (Piece.lexemes ps).Pairwise fun l k => l.line ≤ k.line := by
  induction h with
  | done => simp
  | lexeme hne hlexical h ih =>
    rw [count_newline_append (newline_not_mem_of_isLexical hlexical)] at hfit
    rw [Piece.lexemes_lexeme_cons, List.pairwise_cons]
    exact ⟨fun l hl => UInt32.le_iff_toNat_le.2 (h.line_bounds hfit l hl).1, ih hfit⟩
  | newline h ih =>
    rw [List.count_cons_self] at hfit
    have hsucc := toNat_add_one hfit
    rw [Piece.lexemes_lexeme_cons, List.pairwise_cons]
    refine ⟨fun l hl => UInt32.le_iff_toNat_le.2 ?_, ih (by omega)⟩
    have := (h.line_bounds (by omega) l hl).1
    dsimp only
    omega
  | blank hc h ih =>
    rw [count_newline_cons (ne_newline_of_isBlank hc)] at hfit
    simpa using ih hfit
  | rejected hfault h ih =>
    rw [count_newline_cons (ne_newline_of_fault hfault)] at hfit
    simpa using ih hfit

/-- **Laid out pieces cover the lines of their text**, if none of them is rejected. -/
theorem covers (h : Layout line cs ps) (hclean : ∀ d, .rejected d ∉ ps)
    (hfit : line.toNat + cs.count '\n' < 2 ^ 32) (j : Nat) :
    Covers cs j (Lexeme.onLine (Piece.lexemes ps) (line.toNat + j)) := by
  -- `j` counts the lines behind the current one: a piece is on the line asked for only if `j` is 0
  induction h generalizing j with
  | done => exact .nil j
  | lexeme hne hlexical h ih =>
    have htext := newline_not_mem_of_isLexical hlexical
    rw [count_newline_append htext] at hfit
    have hcovers := ih (fun d hd => hclean d (List.mem_cons_of_mem _ hd)) hfit j
    rw [Piece.lexemes_lexeme_cons]
    cases j with
    | zero =>
      rw [Lexeme.onLine_cons_of_eq (Nat.add_zero _).symm]
      exact hcovers.lexeme hlexical rfl
    | succ j =>
      rw [Lexeme.onLine_cons_of_ne (by dsimp only; omega)]
      exact hcovers.append htext
  | newline h ih =>
    rw [List.count_cons_self] at hfit
    have hsucc := toNat_add_one hfit
    rw [Piece.lexemes_lexeme_cons]
    cases j with
    | zero =>
      rw [Lexeme.onLine_cons_of_eq (Nat.add_zero _).symm, Lexeme.onLine_eq_nil fun l hl => ?_]
      · exact .newline rfl
      -- what comes behind a newline lies on later lines
      · have := (h.line_bounds (by omega) l hl).1
        dsimp only
        omega
    | succ j =>
      have hcovers := ih (fun d hd => hclean d (List.mem_cons_of_mem _ hd)) (by omega) j
      rw [Lexeme.onLine_cons_of_ne (by dsimp only; omega)]
      rw [hsucc, Nat.add_assoc, Nat.add_comm 1 j] at hcovers
      exact hcovers.newline_succ
  | @blank line c cs ps hc h ih =>
    rw [count_newline_cons (ne_newline_of_isBlank hc)] at hfit
    have hcovers := ih (fun d hd => hclean d (List.mem_cons_of_mem _ hd)) hfit j
    rw [Piece.lexemes_blank_cons]
    cases j with
    | zero => exact hcovers.blank hc
    | succ j =>
      have htext : '\n' ∉ [c] := by simpa using (ne_newline_of_isBlank hc).symm
      exact hcovers.append htext
  | rejected => exact absurd (List.mem_cons_self ..) (hclean _)

end Layout

/-! ## Analyses cover their source -/

/-- **The tokens of an analysis cover the lines of its source**: only blanks are left out. -/
theorem tokens_cover_lines {table : Spellings} {source : String} {a : Analysis}
    (hfit : source.toList.count '\n' ≤ 2 ^ 32 - 2) (h : analyzeWith table source = .ok a) :
    (a.tokens.Pairwise fun s t => s.line ≤ t.line) ∧
      ∀ n, 1 ≤ n →
        (∀ line, line? source n = some line →
          Lexeme.lineText (Lexeme.onLine a.lexemes n) = withoutBlanks line ∧
          (n ≤ source.toList.count '\n' →
            ClosedByNewline (Lexeme.onLine a.lexemes n)) ∧
          (source.toList.count '\n' < n →
            ∀ l ∈ Lexeme.onLine a.lexemes n, l.isNewline = false)) ∧
        (line? source n = none → ∀ t ∈ a.tokens, t.line.toNat ≠ n) := by
  have hlayout := layout_pieces table (Lexer.ofSource source)
  have hcount : (Lexer.ofSource source).cursor.line.toNat +
      (Lexer.ofSource source).cursor.rest.count '\n' < 2 ^ 32 := by
    change 1 + source.toList.count '\n' < 2 ^ 32
    omega
  have hlexemes : Piece.lexemes ((Lexer.ofSource source).pieces table) = a.lexemes := by
    rw [← Draft.lexemes_scan, Draft.lexemes_scan_of_ok h]
  refine ⟨?_, fun n hn => ?_⟩
  · have hpairwise := hlayout.pairwise_line hcount
    rwa [hlexemes, Analysis.lexemes, List.pairwise_map] at hpairwise
  · obtain ⟨j, rfl⟩ := Nat.exists_eq_add_of_le hn
    have hcovers := hlayout.covers (fun d => Draft.rejected_not_mem_pieces h d) hcount j
    rw [hlexemes] at hcovers
    change Covers source.toList j (Lexeme.onLine _ (1 + j)) at hcovers
    rw [line?, Nat.add_comm 1 j] at *
    refine ⟨fun line hline => ?_, fun hnone t ht heq => ?_⟩
    · obtain ⟨cs, hcs, rfl⟩ := Option.map_eq_some_iff.1 hline
      refine ⟨?_, fun hle => hcovers.closed (by omega), fun hlt => hcovers.unclosed (by omega)⟩
      rw [withoutBlanks, String.toList_ofList]
      exact hcovers.text cs hcs
    · have hmem : t.toLexeme ∈ Lexeme.onLine a.lexemes (j + 1) :=
        List.mem_filter.2 ⟨List.mem_map_of_mem ht, decide_eq_true heq⟩
      rw [hcovers.empty (Option.map_eq_none_iff.1 hnone)] at hmem
      exact List.not_mem_nil hmem

/-- A declaration, and a line with blanks that no newline ends. -/
theorem tokens_cover_lines_of_assignment :
    ∃ a, analyzeWith .standard "int a\n\ta = -1" = .ok a ∧
      "int a\n\ta = -1".toList.count '\n' ≤ 2 ^ 32 - 2 ∧
      Lexeme.lineText (Lexeme.onLine a.lexemes 2) = withoutBlanks "\ta = -1" ∧
      ClosedByNewline (Lexeme.onLine a.lexemes 1) := by
  have hfit : "int a\n\ta = -1".toList.count '\n' ≤ 2 ^ 32 - 2 := by decide
  have h : analyzeWith .standard "int a\n\ta = -1" = .ok
      ⟨[⟨⟨1, "int", .spelling 13⟩, 1, none⟩, ⟨⟨1, "a", .identifier⟩, 2, some 1⟩,
          ⟨⟨1, "¶", .spelling 31⟩, 3, none⟩, ⟨⟨2, "a", .identifier⟩, 4, some 1⟩,
          ⟨⟨2, "=", .spelling 1⟩, 5, none⟩, ⟨⟨2, "-1", .constant⟩, 6, some 1⟩],
        [⟨"a", 1, "int"⟩], [⟨"-1", 1⟩], []⟩ := by cbv
  have hlines := (tokens_cover_lines hfit h).2
  have hfirst : line? "int a\n\ta = -1" 1 = some "int a" := by cbv
  have hsecond : line? "int a\n\ta = -1" 2 = some "\ta = -1" := by cbv
  exact ⟨_, h, hfit, ((hlines 2 (by decide)).1 _ hsecond).1,
    ((hlines 1 (by decide)).1 _ hfirst).2.1 (by decide)⟩

end Lexis
