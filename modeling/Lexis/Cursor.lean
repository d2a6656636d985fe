/-!
# Cursors

A cursor is a place in a source text: what is left of the text, how many characters were passed,
and the number of the current line.

* `Cursor.ofSource`, `Cursor.empty`: the start of a text, and the place in no text at all;
* `Cursor.current`, `Cursor.lookahead`: the next two characters, `padding` beyond the end;
* `Cursor.run`: the characters from here on, as long as they are of one class;
* `Cursor.skip`, `Cursor.advance`, `Cursor.nextLine`: moves, which never look at the end of the
  text: it is for their caller to stop there.
-/

namespace Lexis

/-- A place in a source text. -/
structure Cursor where
  /-- The characters from here to the end of the text. -/
  rest : List Char
  /-- How many characters were passed. -/
  offset : Nat
  /-- The number of the current line, counted modulo `2 ^ 32`. -/
  line : UInt32
  deriving DecidableEq, Repr

namespace Cursor

/-- The character read beyond the end of a text. -/
def padding : Char := ' '

/-- The start of a text, on line 1. -/
def ofSource (source : String) : Cursor := ⟨source.toList, 0, 1⟩

/-- The place in no text, on line 0. -/
def empty : Cursor := ⟨[], 0, 0⟩

instance : Inhabited Cursor := ⟨empty⟩

/-- A character of the text is under the cursor. -/
def hasInput (cur : Cursor) : Bool := !cur.rest.isEmpty

/-- The character under the cursor. -/
def current (cur : Cursor) : Char := cur.rest.headD padding

/-- The character after the one under the cursor. -/
def lookahead (cur : Cursor) : Char := cur.rest.tail.headD padding

/-- The characters from here on, up to the first one that is not in the class `p`. -/
def run (cur : Cursor) (p : Char → Bool) : List Char := cur.rest.takeWhile p

/-- Pass `n` characters. -/
def skip (cur : Cursor) (n : Nat) : Cursor :=
  { cur with rest := cur.rest.drop n, offset := cur.offset + n }

/-- Pass one character. -/
def advance (cur : Cursor) : Cursor := cur.skip 1

/-- Count one more line. -/
def nextLine (cur : Cursor) : Cursor := { cur with line := cur.line + 1 }

@[simp] theorem rest_skip (cur : Cursor) (n : Nat) : (cur.skip n).rest = cur.rest.drop n := rfl
@[simp] theorem offset_skip (cur : Cursor) (n : Nat) : (cur.skip n).offset = cur.offset + n := rfl
@[simp] theorem line_skip (cur : Cursor) (n : Nat) : (cur.skip n).line = cur.line := rfl
@[simp] theorem rest_nextLine (cur : Cursor) : cur.nextLine.rest = cur.rest := rfl
@[simp] theorem offset_nextLine (cur : Cursor) : cur.nextLine.offset = cur.offset := rfl
@[simp] theorem line_nextLine (cur : Cursor) : cur.nextLine.line = cur.line + 1 := rfl

@[simp] theorem rest_advance (cur : Cursor) : cur.advance.rest = cur.rest.tail := by
  simp [advance]

theorem run_prefix_rest (cur : Cursor) (p : Char → Bool) : cur.run p <+: cur.rest :=
  List.takeWhile_prefix p

theorem rest_skip_run (cur : Cursor) (p : Char → Bool) :
    (cur.skip (cur.run p).length).rest = cur.rest.dropWhile p := by
  have h := List.takeWhile_append_dropWhile (p := p) (l := cur.rest)
  rw [rest_skip, run]
  conv => lhs; arg 2; rw [← h]
  rw [List.drop_left]

theorem hasInput_iff {cur : Cursor} : cur.hasInput = true ↔ cur.rest ≠ [] := by
  cases h : cur.rest <;> simp [hasInput, h]

theorem rest_eq_cons {cur : Cursor} (h : cur.hasInput = true) :
    cur.rest = cur.current :: cur.rest.tail := by
  cases hrest : cur.rest with
  | nil => exact absurd hrest (hasInput_iff.1 h)
  | cons c cs => simp [current, hrest]

theorem rest_eq_cons_cons {cur : Cursor} (h : cur.hasInput = true) (hne : cur.lookahead ≠ padding) :
    cur.rest = cur.current :: cur.lookahead :: cur.rest.tail.tail := by
  rw [rest_eq_cons h]
  cases htail : cur.rest.tail with
  | nil => simp [lookahead, htail] at hne
  | cons c cs => simp [lookahead, htail]

end Cursor

end Lexis
