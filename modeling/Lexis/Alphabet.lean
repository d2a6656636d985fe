/-!
# The alphabet of source texts

The characters that the lexer tells apart, beside the ASCII letters (`Char.isAlpha`) and digits
(`Char.isDigit`) that make up words and numbers.

* `isBlank`: spaces and tabs, which only separate;
* `isSolo`: the characters that are an operator on their own;
* `followers`: the characters that a two-character operator may end in, given its first one.
-/

namespace Lexis.Alphabet

/-- Spaces and tabs separate lexemes and are part of none. -/
def isBlank (c : Char) : Bool := c = ' ' || c = '\t'

/-- The operators of one character, which never join with what follows. -/
def solo : List Char := ['+', '*', '/', '^', ',', '?', ':', '(', ')', '\x7b', '\x7d']

/-- The character is an operator on its own. -/
def isSolo (c : Char) : Bool := solo.contains c

/-- The characters that join `c` to an operator of two characters; none if `c` opens no such
operator. -/
def followers : Char → List Char
  | '=' => ['=']
  | '<' => ['=', '<']
  | '>' => ['=', '>']
  | _ => []

theorem isSolo_iff {c : Char} : isSolo c = true ↔ c ∈ solo := by simp [isSolo]

theorem followers_ne_nil_iff {c : Char} : followers c ≠ [] ↔ c = '=' ∨ c = '<' ∨ c = '>' := by
  unfold followers; split <;> simp_all

end Lexis.Alphabet
