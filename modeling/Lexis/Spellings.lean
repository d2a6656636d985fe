/-!
# Spelling tables

A spelling table gives the fixed spellings of the language (keywords, operators and the newline)
their codes.

* `Spellings`, `Spellings.code?`: the table and its look-up;
* `Spellings.insert`, `Spellings.ofList`: a later code for a spelling wins over an earlier one;
* `Spellings.standard`: the table of the language, which leaves `^` without a code;
* `isTypeKeyword`: the keywords that open a declaration.
-/

namespace Lexis

/-- A table of fixed spellings with their codes, the latest entry first. -/
structure Spellings where
  entries : List (String × Nat)
  deriving DecidableEq, Repr, Inhabited

namespace Spellings

/-- The table without spellings. -/
def empty : Spellings := ⟨[]⟩

/-- The code of a spelling, if the table has it. -/
def code? (table : Spellings) (spelling : String) : Option Nat := table.entries.lookup spelling

/-- The spelling is a key of the table. -/
def contains (table : Spellings) (spelling : String) : Bool := (table.code? spelling).isSome

/-- Give `spelling` the code `code`, whatever it had before. -/
def insert (table : Spellings) (spelling : String) (code : Nat) : Spellings :=
  ⟨(spelling, code) :: table.entries⟩

/-- The table of a list of entries, in which the last entry of a spelling counts. -/
def ofList (entries : List (String × Nat)) : Spellings :=
  entries.foldl (fun table entry => table.insert entry.1 entry.2) empty

@[simp] theorem code?_empty (spelling : String) : empty.code? spelling = none := rfl

theorem code?_insert (table : Spellings) (spelling other : String) (code : Nat) :
    (table.insert spelling code).code? other =
      if other = spelling then some code else table.code? other := by
  by_cases h : other = spelling
  · simp [code?, insert, h]
  · simp [code?, insert, List.lookup_cons, h, beq_eq_false_iff_ne.2 h]

/-- The spellings of the language. -/
def standard : Spellings := ofList [
  ("=", 1), ("==", 2), ("!=", 3), (">=", 4), ("<=", 5), (">>", 6), ("<<", 7),
  ("in", 8), ("out", 9), ("repeat", 10), ("until", 11), ("if", 12), ("int", 13),
  ("(", 14), (")", 15), ("\x7b", 16), ("\x7d", 17),
  ("+", 18), ("-", 19), ("/", 20), ("*", 21), (",", 22), ("?", 23), (":", 24),
  ("goto", 25), (">", 26), ("<", 27), ("not", 28), ("or", 29), ("and", 30), ("\n", 31)]

/-- The code of the newline, zero if the table has none. -/
def newlineCode (table : Spellings) : Nat := (table.code? "\n").getD 0

/-- The code of a spelling as a signed number, `-1` if the table has none. -/
def signedCode (table : Spellings) (spelling : String) : Int :=
  (table.code? spelling).elim (-1) Int.ofNat

end Spellings

/-- The keywords that open a declaration. -/
def typeKeywords : List String := ["int"]

/-- The spelling opens a declaration. -/
def isTypeKeyword (spelling : String) : Bool := typeKeywords.contains spelling

/-- The keyword whose next word names a label. -/
def gotoSpelling : String := "goto"

end Lexis
