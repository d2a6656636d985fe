import Lexis.Alphabet
import Lexis.Cursor
import Lexis.Diagnostic

/-!
# What stands at the cursor

The lexer takes the longest piece that the characters from the cursor on allow. The cursor reads
padding beyond the end of the text; no piece holds any of it.

* `Shape`, `Munch`: the sort of a piece, and a piece;
* `munch`: the piece at the cursor, which depends on what was passed only in whether a minus may be
  the sign of a number;
* **`text_munch_prefix_rest`**, **`text_munch_ne_nil`**: where there is input, the piece is a nonempty
  prefix of what is left of the text.
-/

namespace Lexis

/-- The sort of a piece of a text. -/
inductive Shape
  /-- A letter, and all letters and digits after it. -/
  | word
  /-- A word and the colon right after it. -/
  | label
  /-- A run of digits, with its sign. -/
  | number
  | operator
  | newline
  | blank
  /-- A character that starts no lexeme here. -/
  | rejected (fault : Fault)
  deriving DecidableEq, Repr

/-- A piece of a text. -/
structure Munch where
  shape : Shape
  text : List Char
  deriving DecidableEq, Repr

namespace Munch

open Alphabet

/-- The word at the cursor, with the colon that makes it a label. -/
def word (cur : Cursor) : Munch :=
  let name := cur.run Char.isAlphanum
  if (cur.skip name.length).current = ':' then ⟨.label, name ++ [':']⟩ else ⟨.word, name⟩

/-- The number at the cursor. -/
def number (cur : Cursor) : Munch := ⟨.number, cur.run Char.isDigit⟩

/-- A minus before a digit is the sign of a number, but not after an operand. -/
def minus (afterOperand : Bool) (cur : Cursor) : Munch :=
  if cur.lookahead.isDigit && !afterOperand then
    ⟨.number, cur.current :: cur.advance.run Char.isDigit⟩
  else ⟨.operator, [cur.current]⟩

/-- The operator at the cursor, of two characters if they join. -/
def pair (cur : Cursor) : Munch :=
  if cur.lookahead ∈ followers cur.current then ⟨.operator, [cur.current, cur.lookahead]⟩
  else ⟨.operator, [cur.current]⟩

/-- An exclamation mark is an operator only together with an equals sign. -/
def bang (cur : Cursor) : Munch :=
  if cur.lookahead = '=' then ⟨.operator, [cur.current, cur.lookahead]⟩
  else ⟨.rejected (.expectedSymbol "!" "="), [cur.current]⟩

end Munch

open Alphabet Munch in
/-- The piece at the cursor. -/
def munch (afterOperand : Bool) (cur : Cursor) : Munch :=
  let c := cur.current
  if c.isAlpha then word cur
  else if c.isDigit then number cur
  else if isBlank c then ⟨.blank, [c]⟩
  else if isSolo c then ⟨.operator, [c]⟩
  else if followers c ≠ [] then pair cur
  else if c = '-' then minus afterOperand cur
  else if c = '!' then bang cur
  else if c = '\n' then ⟨.newline, [c]⟩
  else ⟨.rejected (.unknownSymbol c), [c]⟩

/-! ## Pieces are made of input -/

theorem Alphabet.padding_not_mem_followers (c : Char) : Cursor.padding ∉ followers c := by
  unfold followers Cursor.padding
  split <;> decide

namespace Munch

open Alphabet

variable {cur : Cursor}

theorem current_prefix_rest (h : cur.hasInput = true) : [cur.current] <+: cur.rest :=
  ⟨_, (Cursor.rest_eq_cons h).symm⟩

theorem current_lookahead_prefix_rest (h : cur.hasInput = true) (hne : cur.lookahead ≠ Cursor.padding) :
    [cur.current, cur.lookahead] <+: cur.rest :=
  ⟨_, (Cursor.rest_eq_cons_cons h hne).symm⟩

theorem text_word_prefix_rest (cur : Cursor) : (word cur).text <+: cur.rest := by
  unfold word
  dsimp only
  split
  · next hcolon =>
    rw [Cursor.current, Cursor.rest_skip_run] at hcolon
    have happ := List.takeWhile_append_dropWhile (p := Char.isAlphanum) (l := cur.rest)
    cases hdrop : cur.rest.dropWhile Char.isAlphanum with
    | nil => rw [hdrop] at hcolon; exact absurd hcolon (by decide)
    | cons c cs =>
      rw [hdrop] at hcolon happ
      rw [List.headD_cons] at hcolon
      exact ⟨cs, by simpa [Cursor.run, hcolon] using happ⟩
  · exact Cursor.run_prefix_rest ..

theorem text_minus_prefix_rest (afterOperand : Bool) (h : cur.hasInput = true) :
    (minus afterOperand cur).text <+: cur.rest := by
  unfold minus
  split
  · rw [Cursor.rest_eq_cons h]
    exact List.cons_prefix_cons.2 ⟨rfl, by simpa using Cursor.run_prefix_rest cur.advance Char.isDigit⟩
  · exact current_prefix_rest h

theorem text_pair_prefix_rest (h : cur.hasInput = true) : (pair cur).text <+: cur.rest := by
  unfold pair
  split
  · next hmem =>
    exact current_lookahead_prefix_rest h fun hpad => padding_not_mem_followers _ (hpad ▸ hmem)
  · exact current_prefix_rest h

theorem text_bang_prefix_rest (h : cur.hasInput = true) : (bang cur).text <+: cur.rest := by
  unfold bang
  split
  · next heq => exact current_lookahead_prefix_rest h (by rw [heq]; decide)
  · exact current_prefix_rest h

theorem run_ne_nil {p : Char → Bool} (h : cur.hasInput = true) (hp : p cur.current = true) :
    cur.run p ≠ [] := by
  rw [Cursor.run, Cursor.rest_eq_cons h, List.takeWhile_cons_of_pos hp]
  exact List.cons_ne_nil _ _

end Munch

/-- **The piece at the cursor is a prefix of what is left of the text.** -/
theorem text_munch_prefix_rest (afterOperand : Bool) {cur : Cursor} (h : cur.hasInput = true) :
    (munch afterOperand cur).text <+: cur.rest := by
  unfold munch
  dsimp only
  repeat' split
  · exact Munch.text_word_prefix_rest cur
  · exact Cursor.run_prefix_rest ..
  · exact Munch.current_prefix_rest h
  · exact Munch.current_prefix_rest h
  · exact Munch.text_pair_prefix_rest h
  · exact Munch.text_minus_prefix_rest afterOperand h
  · exact Munch.text_bang_prefix_rest h
  · exact Munch.current_prefix_rest h
  · exact Munch.current_prefix_rest h

/-- **The piece at the cursor is not empty.** -/
theorem text_munch_ne_nil (afterOperand : Bool) {cur : Cursor} (h : cur.hasInput = true) :
    (munch afterOperand cur).text ≠ [] := by
  unfold munch
  dsimp only
  repeat' split
  · next halpha =>
    have hrun := Munch.run_ne_nil (p := Char.isAlphanum) h (by simp [Char.isAlphanum, halpha])
    unfold Munch.word
    dsimp only
    split
    · simp
    · exact hrun
  · next hdigit => exact Munch.run_ne_nil h hdigit
  · simp
  · simp
  · unfold Munch.pair; split <;> simp
  · unfold Munch.minus; split <;> simp
  · unfold Munch.bang; split <;> simp
  · simp
  · simp

end Lexis
