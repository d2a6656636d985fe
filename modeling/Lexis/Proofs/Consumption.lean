import Lexis.Analyzer
import Lexis.Proofs.Draft

/-!
# A scan passes every character once

A cursor moves on whether or not any text is left, and beyond the end it reads padding. Nothing but
the head of a round looks for the end of the text; all that the round does from there on, it does
character by character. It comes to the end of the text all the same and never beyond it, since no
test in a round accepts the padding behind a character of the text.

* `Cursor.ConsumesWhile`: characters are read as long as they are of one class, with
  **`Cursor.consumesWhile_iff`**: at the latest the padding ends it;
* `Cursor.Takes`: a piece is read character by character, one rule a branch, with
  **`Lexer.takes_iff`**: this is the piece that the lexer passes;
* `Cursor.LiesIn`, `Cursor.Passes`: a cursor in a source, and a piece of the source that is read;
* `Analyzer.round?`, `Analyzer.Rounds`: the rounds of a scan, with **`Analyzer.passes_of_round?`**
  and **`Analyzer.Rounds.passes`**: what one of them passes, and all of them;
* `Munch.lexemeText?`: the text of the lexeme that a piece makes, with
  `Analyzer.lexemeTexts_of_round?` and `Analyzer.Rounds.lexemeTexts_eq`: the lexemes of a round, and
  of all of them;
* **`Analyzer.scan_consumes_source`**: a scan passes every character of its source once, and ends.
-/

namespace Lexis

open Alphabet

/-! ## Reading character by character -/

namespace Cursor

/-- While the character under the cursor is of the class `p`, it is read and the cursor moves on,
beyond the end of the text if need be. -/
inductive ConsumesWhile (p : Char → Bool) : Cursor → List Char → Cursor → Prop
  | stop {cur : Cursor} (h : p cur.current = false) : ConsumesWhile p cur [] cur
  | consume {cur cur' : Cursor} {text : List Char} (h : p cur.current = true)
      (hrest : ConsumesWhile p cur.advance text cur') :
      ConsumesWhile p cur (cur.current :: text) cur'

variable {p : Char → Bool} {cur cur' : Cursor} {text : List Char}

theorem skip_skip (cur : Cursor) (m n : Nat) : (cur.skip m).skip n = cur.skip (m + n) := by
  simp [skip, List.drop_drop, Nat.add_assoc]

theorem skip_advance (cur : Cursor) (n : Nat) : cur.advance.skip n = cur.skip (n + 1) := by
  rw [advance, skip_skip, Nat.add_comm]

theorem run_eq_nil (h : p cur.current = false) : cur.run p = [] := by
  unfold run
  cases hrest : cur.rest with
  | nil => rfl
  | cons c cs =>
    rw [current, hrest, List.headD_cons] at h
    exact List.takeWhile_cons_of_neg (by simp [h])

/-- A class without the padding has no character where there is no text. -/
theorem hasInput_of_current (hp : p padding = false) (h : p cur.current = true) :
    cur.hasInput = true := by
  refine hasInput_iff.2 fun hnil => ?_
  rw [current, hnil, List.headD_nil, hp] at h
  cases h

theorem run_eq_cons (hp : p padding = false) (h : p cur.current = true) :
    cur.run p = cur.current :: cur.advance.run p := by
  unfold run
  rw [rest_eq_cons (hasInput_of_current hp h), List.takeWhile_cons_of_pos h, rest_advance]

theorem ConsumesWhile.eq_run (hp : p padding = false) (h : ConsumesWhile p cur text cur') :
    text = cur.run p ∧ cur' = cur.skip text.length := by
  induction h with
  | stop h => exact ⟨(run_eq_nil h).symm, rfl⟩
  | consume h _ ih =>
    obtain ⟨htext, hcur⟩ := ih
    rw [run_eq_cons hp h, ← htext, List.length_cons, ← skip_advance, ← hcur]
    exact ⟨rfl, rfl⟩

theorem consumesWhile_run (hp : p padding = false) (cur : Cursor) :
    ConsumesWhile p cur (cur.run p) (cur.skip (cur.run p).length) := by
  cases h : p cur.current with
  | false =>
    rw [run_eq_nil h]
    exact .stop h
  | true =>
    rw [run_eq_cons hp h, List.length_cons, ← skip_advance]
    exact .consume h (consumesWhile_run hp cur.advance)
termination_by cur.rest.length
decreasing_by
  rw [rest_advance, rest_eq_cons (hasInput_of_current hp h), List.tail_cons, List.length_cons]
  exact Nat.lt_succ_self _

/-- **At the latest the padding ends a run of characters**, if it is none of them. -/
theorem consumesWhile_iff (hp : p padding = false) :
    ConsumesWhile p cur text cur' ↔ text = cur.run p ∧ cur' = cur.skip text.length := by
  refine ⟨ConsumesWhile.eq_run hp, ?_⟩
  rintro ⟨rfl, rfl⟩
  exact consumesWhile_run hp cur

/-- The piece is read character by character, and the cursor comes to the second place. No rule asks
for text behind the first character. -/
inductive Takes (afterOperand : Bool) : Cursor → Munch → Cursor → Prop
  | word {cur cur' : Cursor} {text : List Char} (h : cur.current.isAlpha = true)
      (hloop : ConsumesWhile Char.isAlphanum cur text cur') (hcolon : cur'.current ≠ ':') :
      Takes afterOperand cur ⟨.word, text⟩ cur'
  | label {cur cur' : Cursor} {text : List Char} (h : cur.current.isAlpha = true)
      (hloop : ConsumesWhile Char.isAlphanum cur text cur') (hcolon : cur'.current = ':') :
      Takes afterOperand cur ⟨.label, text ++ [cur'.current]⟩ cur'.advance
  | number {cur cur' : Cursor} {text : List Char} (h : cur.current.isDigit = true)
      (hloop : ConsumesWhile Char.isDigit cur text cur') :
      Takes afterOperand cur ⟨.number, text⟩ cur'
  | negative {cur cur' : Cursor} {text : List Char} (h : cur.current = '-')
      (hoperand : afterOperand = false) (hdigit : cur.advance.current.isDigit = true)
      (hloop : ConsumesWhile Char.isDigit cur.advance text cur') :
      Takes afterOperand cur ⟨.number, cur.current :: text⟩ cur'
  | minus {cur : Cursor} (h : cur.current = '-')
      (hsign : afterOperand = true ∨ cur.advance.current.isDigit = false) :
      Takes afterOperand cur ⟨.operator, [cur.current]⟩ cur.advance
  | solo {cur : Cursor} (h : isSolo cur.current = true) :
      Takes afterOperand cur ⟨.operator, [cur.current]⟩ cur.advance
  | joined {cur : Cursor} (h : cur.advance.current ∈ followers cur.current) :
      Takes afterOperand cur ⟨.operator, [cur.current, cur.advance.current]⟩ cur.advance.advance
  | single {cur : Cursor} (h : followers cur.current ≠ [])
      (hnext : cur.advance.current ∉ followers cur.current) :
      Takes afterOperand cur ⟨.operator, [cur.current]⟩ cur.advance
  | unequal {cur : Cursor} (h : cur.current = '!') (hnext : cur.advance.current = '=') :
      Takes afterOperand cur ⟨.operator, [cur.current, cur.advance.current]⟩ cur.advance.advance
  | bang {cur : Cursor} (h : cur.current = '!') (hnext : cur.advance.current ≠ '=') :
      Takes afterOperand cur ⟨.rejected (.expectedSymbol "!" "="), [cur.current]⟩ cur.advance
  | blank {cur : Cursor} (h : isBlank cur.current = true) :
      Takes afterOperand cur ⟨.blank, [cur.current]⟩ cur.advance
  | newline {cur : Cursor} (h : cur.current = '\n') :
      Takes afterOperand cur ⟨.newline, [cur.current]⟩ cur.nextLine.advance
  | illegal {cur : Cursor} (h : isLegal cur.current = false) :
      Takes afterOperand cur ⟨.rejected (.unknownSymbol cur.current), [cur.current]⟩ cur.advance

theorem current_advance (cur : Cursor) : cur.advance.current = cur.lookahead := by
  rw [current, rest_advance, lookahead]

namespace Takes

variable {afterOperand : Bool} {m : Munch}

/-- What is read character by character is the piece at the cursor. -/
theorem eq_munch (h : Takes afterOperand cur m cur') : m = munch afterOperand cur := by
  cases h with
  | word h hloop hcolon =>
    obtain ⟨rfl, rfl⟩ := hloop.eq_run (by decide)
    rw [munch_of_isAlpha h, Munch.word, if_neg hcolon]
  | label h hloop hcolon =>
    obtain ⟨rfl, rfl⟩ := hloop.eq_run (by decide)
    rw [munch_of_isAlpha h, Munch.word, if_pos hcolon, hcolon]
  | number h hloop =>
    obtain ⟨rfl, -⟩ := hloop.eq_run (by decide)
    rw [munch_of_isDigit h, Munch.number]
  | negative h hoperand hdigit hloop =>
    obtain ⟨rfl, -⟩ := hloop.eq_run (by decide)
    rw [current_advance] at hdigit
    rw [munch_of_minus h, Munch.minus, hoperand, hdigit]
    rfl
  | minus h hsign =>
    rw [current_advance] at hsign
    rw [munch_of_minus h, Munch.minus, if_neg]
    rcases hsign with rfl | hdigit <;> simp_all
  | solo h => rw [munch_of_isSolo h]
  | joined h =>
    rw [current_advance] at h ⊢
    rw [munch_of_followers (List.ne_nil_of_mem h), Munch.pair, if_pos h]
  | single h hnext =>
    rw [current_advance] at hnext
    rw [munch_of_followers h, Munch.pair, if_neg hnext]
  | unequal h hnext =>
    rw [current_advance] at hnext ⊢
    rw [munch_of_bang h, Munch.bang, if_pos hnext]
  | bang h hnext =>
    rw [current_advance] at hnext
    rw [munch_of_bang h, Munch.bang, if_neg hnext]
  | blank h => rw [munch_of_isBlank h]
  | newline h => rw [munch_of_newline h, h]
  | illegal h => rw [munch_of_illegal h]

/-- The cursor comes to the place where the lexer goes on. -/
theorem eq_cursorAfter (h : Takes afterOperand cur m cur') (last : Option Lexeme) :
    cur' = (Lexer.mk cur last).cursorAfter m := by
  cases h with
  | word h hloop => exact (hloop.eq_run (by decide)).2
  | label h hloop =>
    obtain ⟨-, rfl⟩ := hloop.eq_run (by decide)
    rw [advance, skip_skip, Lexer.cursorAfter, List.length_append, List.length_singleton]
  | number h hloop => exact (hloop.eq_run (by decide)).2
  | negative h hoperand hdigit hloop =>
    obtain ⟨-, rfl⟩ := hloop.eq_run (by decide)
    rw [skip_advance, Lexer.cursorAfter, List.length_cons]
  | joined | unequal => exact skip_advance ..
  | _ => rfl

end Takes

/-- At every cursor one of the rules applies, also where no text is left. -/
theorem exists_takes (afterOperand : Bool) (cur : Cursor) :
    ∃ m cur', Takes afterOperand cur m cur' := by
  have hword := consumesWhile_run (p := Char.isAlphanum) (by decide) cur
  have hnumber := consumesWhile_run (p := Char.isDigit) (by decide)
  by_cases halpha : cur.current.isAlpha = true
  · by_cases hcolon : (cur.skip (cur.run Char.isAlphanum).length).current = ':'
    · exact ⟨_, _, .label halpha hword hcolon⟩
    · exact ⟨_, _, .word halpha hword hcolon⟩
  by_cases hdigit : cur.current.isDigit = true
  · exact ⟨_, _, .number hdigit (hnumber cur)⟩
  by_cases hblank : isBlank cur.current = true
  · exact ⟨_, _, .blank hblank⟩
  by_cases hsolo : isSolo cur.current = true
  · exact ⟨_, _, .solo hsolo⟩
  by_cases hpair : followers cur.current ≠ []
  · by_cases hnext : cur.advance.current ∈ followers cur.current
    · exact ⟨_, _, .joined hnext⟩
    · exact ⟨_, _, .single hpair hnext⟩
  by_cases hminus : cur.current = '-'
  · by_cases hsign : afterOperand = true ∨ cur.advance.current.isDigit = false
    · exact ⟨_, _, .minus hminus hsign⟩
    · rw [not_or, Bool.not_eq_true, Bool.not_eq_false] at hsign
      exact ⟨_, _, .negative hminus hsign.1 hsign.2 (hnumber cur.advance)⟩
  by_cases hbang : cur.current = '!'
  · by_cases hnext : cur.advance.current = '='
    · exact ⟨_, _, .unequal hbang hnext⟩
    · exact ⟨_, _, .bang hbang hnext⟩
  by_cases hnewline : cur.current = '\n'
  · exact ⟨_, _, .newline hnewline⟩
  refine ⟨_, _, .illegal ?_⟩
  rw [followers_ne_nil_iff] at hpair
  simp_all [isLegal, isLexical, Char.isAlphanum]

end Cursor

/-- **The lexer passes the piece that is read character by character, and no other can be.** -/
theorem Lexer.takes_iff {lx : Lexer} {m : Munch} {cur' : Cursor} :
    Cursor.Takes lx.afterOperand lx.cursor m cur' ↔
      m = munch lx.afterOperand lx.cursor ∧ cur' = lx.cursorAfter m := by
  refine ⟨fun h => ⟨h.eq_munch, h.eq_cursorAfter lx.last⟩, ?_⟩
  rintro ⟨rfl, rfl⟩
  obtain ⟨m, cur', h⟩ := Cursor.exists_takes lx.afterOperand lx.cursor
  obtain rfl := h.eq_munch
  obtain rfl := h.eq_cursorAfter lx.last
  exact h

/-! ## Places in a source -/

/-- The characters of the source from the place `i` on and before the place `j`. -/
def Source.slice (source : String) (i j : Nat) : List Char := (source.toList.drop i).take (j - i)

theorem Source.slice_append {source : String} {i j k : Nat} (hij : i ≤ j) (hjk : j ≤ k) :
    slice source i j ++ slice source j k = slice source i k := by
  have hlength : k - i = (j - i) + (k - j) := by omega
  rw [slice, slice, slice, hlength, List.take_add, List.drop_drop, Nat.add_sub_cancel' hij]

/-- The cursor lies in the source, or at its end. -/
structure Cursor.LiesIn (source : String) (cur : Cursor) : Prop where
  offset_le : cur.offset ≤ source.length
  rest_eq : cur.rest = source.toList.drop cur.offset

namespace Cursor

theorem liesIn_ofSource (source : String) : (ofSource source).LiesIn source :=
  ⟨Nat.zero_le _, rfl⟩

namespace LiesIn

variable {source : String} {cur cur' : Cursor} (h : cur.LiesIn source)
include h

theorem length_rest : cur.offset + cur.rest.length = source.length := by
  have hle := h.offset_le
  rw [h.rest_eq, List.length_drop, String.length_toList]
  omega

theorem hasInput_iff : cur.hasInput = true ↔ cur.offset < source.length := by
  have hlength := h.length_rest
  rw [Cursor.hasInput_iff, ← List.length_pos_iff]
  omega

/-- Behind a text that begins what is left, the cursor lies in the source still. -/
theorem pass {text : List Char} (htext : text <+: cur.rest)
    (hoffset : cur'.offset = cur.offset + text.length)
    (hrest : cur'.rest = cur.rest.drop text.length) :
    cur'.LiesIn source ∧ text = Source.slice source cur.offset cur'.offset := by
  have hlength := h.length_rest
  have hle := htext.length_le
  refine ⟨⟨by omega, ?_⟩, ?_⟩
  · rw [hrest, h.rest_eq, List.drop_drop, hoffset]
  · rw [Source.slice, ← h.rest_eq, hoffset, Nat.add_sub_cancel_left]
    exact List.prefix_iff_eq_take.1 htext

end LiesIn

end Cursor

/-- From the first cursor to the second one a piece of the source is read, character by character,
and no other one can be. -/
structure Cursor.Passes (source : String) (afterOperand : Bool) (cur : Cursor) (m : Munch)
    (cur' : Cursor) : Prop where
  takes : Takes afterOperand cur m cur'
  only : ∀ m' cur'', Takes afterOperand cur m' cur'' → m' = m ∧ cur'' = cur'
  offset_lt : cur.offset < cur'.offset
  offset_le : cur'.offset ≤ source.length
  text_eq : m.text = Source.slice source cur.offset cur'.offset

/-! ## The rounds of a scan -/

namespace Analyzer

/-- The piece at the cursor, which the next round passes. -/
def ahead (a : Analyzer) : Munch := munch a.lexer.afterOperand a.lexer.cursor

/-- One round of a scan: the next piece is added. At the end of the source there is none. -/
def round? (a : Analyzer) : Option Analyzer :=
  (a.lexer.next? a.spellings).map fun next =>
    { a with lexer := next.2, draft := a.draft.add next.1 }

/-- Rounds of a scan lead from the first analyzer to the second one; they pass these pieces. -/
inductive Rounds : List Munch → Analyzer → Analyzer → Prop
  | done (a : Analyzer) : Rounds [] a a
  | round {a b c : Analyzer} {ms : List Munch} (h : a.round? = some b) (hrest : Rounds ms b c) :
      Rounds (a.ahead :: ms) a c

variable {a b : Analyzer} {source : String} {ms : List Munch}

theorem round?_eq_none_iff : a.round? = none ↔ a.lexer.cursor.hasInput = false := by
  rw [round?, Option.map_eq_none_iff, Lexer.next?_eq_none_iff, ← Bool.not_eq_true,
    Cursor.hasInput_iff, not_not]

/-- There is a round where there is input, and this is what comes of it. -/
theorem eq_of_round? (h : a.round? = some b) :
    a.lexer.cursor.hasInput = true ∧
      b = { a with
        lexer := a.lexer.pass a.spellings a.ahead
        draft := a.draft.add (a.lexer.classify a.spellings a.ahead) } := by
  rw [round?, Lexer.next?] at h
  split at h
  · next hinput =>
    cases h
    exact ⟨hinput, rfl⟩
  · cases h

theorem exists_rounds_scan (a : Analyzer) : ∃ ms, Rounds ms a a.scan ∧ a.scan.round? = none := by
  fun_induction scan a with
  | case1 a h => exact ⟨[], .done a, by rw [round?, h, Option.map_none]⟩
  | case2 a piece lexer h ih =>
    obtain ⟨ms, hrounds, hend⟩ := ih
    exact ⟨_, .round (by rw [round?, h, Option.map_some]) hrounds, hend⟩

/-- **A round passes the piece at the cursor**, and the cursor lies in the source still. -/
theorem passes_of_round? (h : a.lexer.cursor.LiesIn source) (hround : a.round? = some b) :
    b.lexer.cursor.LiesIn source ∧
      Cursor.Passes source a.lexer.afterOperand a.lexer.cursor a.ahead b.lexer.cursor := by
  obtain ⟨hinput, hb⟩ := eq_of_round? hround
  have hcursor : b.lexer.cursor = a.lexer.cursorAfter a.ahead := by
    rw [hb]
    rfl
  have hoffset : b.lexer.cursor.offset = a.lexer.cursor.offset + a.ahead.text.length := by
    rw [hcursor, Lexer.offset_cursorAfter]
  have hrest : b.lexer.cursor.rest = a.lexer.cursor.rest.drop a.ahead.text.length := by
    rw [hcursor, Lexer.rest_cursorAfter]
  have hpos := List.length_pos_iff.2 (text_munch_ne_nil a.lexer.afterOperand hinput)
  obtain ⟨hlies, htext⟩ :=
    h.pass (text_munch_prefix_rest a.lexer.afterOperand hinput) hoffset hrest
  refine ⟨hlies, Lexer.takes_iff.2 ⟨rfl, hcursor⟩, fun m cur' htakes => ?_, ?_, hlies.offset_le,
    htext⟩
  · obtain ⟨rfl, rfl⟩ := Lexer.takes_iff.1 htakes
    exact ⟨rfl, hcursor.symm⟩
  · rw [hoffset]
    exact Nat.lt_add_of_pos_right hpos

/-- **Rounds pass all characters from the first place to the last one**, and each at least one. -/
theorem Rounds.passes (hrounds : Rounds ms a b) (h : a.lexer.cursor.LiesIn source) :
    b.lexer.cursor.LiesIn source ∧
      a.lexer.cursor.offset + ms.length ≤ b.lexer.cursor.offset ∧
      ms.flatMap Munch.text =
        Source.slice source a.lexer.cursor.offset b.lexer.cursor.offset := by
  induction hrounds with
  | done a => exact ⟨h, Nat.le_refl _, by simp [Source.slice]⟩
  | @round a b c ms hround _ ih =>
    obtain ⟨hlies, hpasses⟩ := passes_of_round? h hround
    obtain ⟨hend, hcount, htexts⟩ := ih hlies
    have hlt := hpasses.offset_lt
    refine ⟨hend, ?_, ?_⟩
    · rw [List.length_cons]
      omega
    · rw [List.flatMap_cons, hpasses.text_eq, htexts, Source.slice_append (by omega) (by omega)]

end Analyzer

/-! ## Lexemes of a round -/

/-- The text of the lexeme that the piece makes, if it makes one: the characters of the piece, but a
name in the place of a newline. -/
def Munch.lexemeText? (m : Munch) : Option String :=
  match m.shape with
  | .newline => some newlineText
  | .blank | .rejected _ => none
  | .word | .label | .number | .operator => some (.ofList m.text)

theorem Lexer.text_lexeme?_classify (table : Spellings) (lx : Lexer) (m : Munch) :
    (lx.classify table m).lexeme?.map Lexeme.text = m.lexemeText? := by
  rcases m with ⟨shape, text⟩
  cases shape <;> rfl

namespace Analyzer

variable {a b : Analyzer} {ms : List Munch}

/-- The texts of the lexemes so far. -/
def lexemeTexts (a : Analyzer) : List String := a.draft.lexemes.map Lexeme.text

/-- A round adds the lexeme of the piece that it passes, and no other one. -/
theorem lexemeTexts_of_round? (hround : a.round? = some b) :
    b.lexemeTexts = a.lexemeTexts ++ a.ahead.lexemeText?.toList := by
  obtain ⟨-, rfl⟩ := eq_of_round? hround
  rw [lexemeTexts, Draft.lexemes_add, List.map_append, ← Option.toList_map,
    Lexer.text_lexeme?_classify, lexemeTexts]

/-- **Rounds add the lexemes of the pieces that they pass**, and no others. -/
theorem Rounds.lexemeTexts_eq (hrounds : Rounds ms a b) :
    b.lexemeTexts = a.lexemeTexts ++ ms.filterMap Munch.lexemeText? := by
  induction hrounds with
  | done a => simp
  | @round a b c ms hround _ ih =>
    rw [ih, lexemeTexts_of_round? hround, List.append_assoc]
    cases h : a.ahead.lexemeText? <;> simp [h]

end Analyzer

/-! ## Whole scans -/

/-- **A run of characters that starts in the source ends in it**, or at its end. -/
theorem Cursor.LiesIn.exists_consumesWhile {source : String} {cur : Cursor}
    (h : cur.LiesIn source) {p : Char → Bool} (hp : p padding = false) :
    ∃ text cur', ConsumesWhile p cur text cur' ∧ cur'.offset ≤ source.length ∧
      text = Source.slice source cur.offset cur'.offset ∧
      ∀ text' cur'', ConsumesWhile p cur text' cur'' → text' = text ∧ cur'' = cur' := by
  have hoffset := offset_skip cur (cur.run p).length
  obtain ⟨hlies, htext⟩ := h.pass (run_prefix_rest cur p) hoffset (rest_skip ..)
  refine ⟨_, _, consumesWhile_run hp cur, hlies.offset_le, htext, fun text' cur'' hloop => ?_⟩
  obtain ⟨rfl, rfl⟩ := hloop.eq_run hp
  exact ⟨rfl, rfl⟩

/-- **A scan passes every character of its source once, and ends**: each round passes some of them,
none reads the padding, and the lexemes are made of what is passed. -/
theorem Analyzer.scan_consumes_source (a : Analyzer) (source : String) :
    (∀ ms b, Rounds ms (a.start source) b →
      b.lexer.cursor.offset ≤ source.length ∧ ms.length ≤ b.lexer.cursor.offset ∧
      ∀ c, b.round? = some c →
        ∃ m, Cursor.Passes source b.lexer.afterOperand b.lexer.cursor m c.lexer.cursor ∧
          c.lexemeTexts = b.lexemeTexts ++ m.lexemeText?.toList) ∧
    (∀ cur : Cursor, cur.LiesIn source → ∀ p ∈ [Char.isAlphanum, Char.isDigit],
      ∃ text cur', Cursor.ConsumesWhile p cur text cur' ∧ cur'.offset ≤ source.length ∧
        text = Source.slice source cur.offset cur'.offset ∧
        ∀ text' cur'', Cursor.ConsumesWhile p cur text' cur'' → text' = text ∧ cur'' = cur') ∧
    ∃ ms, Rounds ms (a.start source) (a.start source).scan ∧
      (a.start source).scan.round? = none ∧
      (a.start source).scan.lexer.cursor.offset = source.length ∧
      ms.length ≤ source.length ∧ ms.flatMap Munch.text = source.toList ∧
      (a.start source).scan.lexemeTexts = ms.filterMap Munch.lexemeText? := by
  have hstart : (a.start source).lexer.cursor.LiesIn source := Cursor.liesIn_ofSource source
  have hzero : (a.start source).lexer.cursor.offset = 0 := rfl
  have hnone : (a.start source).lexemeTexts = [] := rfl
  refine ⟨fun ms b hrounds => ?_, fun cur hcur p hp => ?_, ?_⟩
  · obtain ⟨hlies, hcount, -⟩ := hrounds.passes hstart
    refine ⟨hlies.offset_le, by omega, fun c hround => ⟨b.ahead, ?_, ?_⟩⟩
    · exact (passes_of_round? hlies hround).2
    · exact lexemeTexts_of_round? hround
  · refine hcur.exists_consumesWhile ?_
    simp only [List.mem_cons, List.not_mem_nil, or_false] at hp
    rcases hp with rfl | rfl <;> rfl
  · obtain ⟨ms, hrounds, hend⟩ := exists_rounds_scan (a.start source)
    obtain ⟨hlies, hcount, htexts⟩ := hrounds.passes hstart
    have hinput := round?_eq_none_iff.1 hend
    rw [← Bool.not_eq_true, hlies.hasInput_iff] at hinput
    have hlast : (a.start source).scan.lexer.cursor.offset = source.length :=
      Nat.le_antisymm hlies.offset_le (Nat.not_lt.1 hinput)
    refine ⟨ms, hrounds, hend, hlast, by omega, ?_, ?_⟩
    · rw [htexts, hzero, hlast, Source.slice, List.drop_zero, Nat.sub_zero, ← String.length_toList,
        List.take_length]
    · rw [hrounds.lexemeTexts_eq, hnone, List.nil_append]

/-- A minus at the end, behind which the padding is looked at. -/
theorem Analyzer.scan_consumes_source_of_minus :
    ∃ c, (standard.start "-").round? = some c ∧ c.lexer.cursor.offset = "-".length ∧
      c.lexemeTexts = ["-"] := by
  obtain ⟨c, hround⟩ : ∃ c, (standard.start "-").round? = some c := ⟨_, rfl⟩
  obtain ⟨m, hpasses, -⟩ := ((scan_consumes_source standard "-").1 [] _ (.done _)).2.2 c hround
  refine ⟨c, hround, Nat.le_antisymm hpasses.offset_le hpasses.offset_lt, ?_⟩
  rw [lexemeTexts_of_round? hround]
  rfl

end Lexis
