/-!
# Lines of a source

The newline ends each line of a source but the last, which may be empty.

* `lineList?`, `line?`: the line of a number, counted from 1;
* `lineList?_append_newline_one`, `lineList?_append_newline`: the lines of a source that has a
  newline.
-/

namespace Lexis.Source

/-- The line of number `n`. -/
def lineList? : List Char → Nat → Option (List Char)
  | _, 0 => none
  | cs, 1 => some (cs.takeWhile (· ≠ '\n'))
  | cs, n + 2 =>
    match cs.dropWhile (· ≠ '\n') with
    | [] => none
    | _ :: rest => lineList? rest (n + 1)

/-- The line of number `n`, without the newline that ends it. -/
def line? (content : String) (n : Nat) : Option String :=
  (lineList? content.toList n).map String.ofList

@[simp] theorem lineList?_zero (cs : List Char) : lineList? cs 0 = none := by
  simp [lineList?]

theorem lineList?_one (cs : List Char) :
    lineList? cs 1 = some (cs.takeWhile (· ≠ '\n')) := by simp [lineList?]

variable {line : List Char} (h : '\n' ∉ line) (rest : List Char)
include h

theorem forall_mem_ne_newline : ∀ c ∈ line, (decide (c ≠ '\n')) = true := fun _ hc =>
  decide_eq_true fun heq => h (heq ▸ hc)

theorem lineList?_append_newline_one : lineList? (line ++ '\n' :: rest) 1 = some line := by
  rw [lineList?_one, List.takeWhile_append_of_pos (forall_mem_ne_newline h)]
  simp

/-- Behind the first newline the lines are counted anew. -/
theorem lineList?_append_newline (n : Nat) :
    lineList? (line ++ '\n' :: rest) (n + 2) = lineList? rest (n + 1) := by
  rw [lineList?, List.dropWhile_append_of_pos (forall_mem_ne_newline h)]
  simp

end Lexis.Source
