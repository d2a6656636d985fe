/-!
# Quoted texts

A quoted text stands between quotes and shows each character that could mislead a reader by an
escape that begins with a backslash.

* `escape`: how one character is written, given the quote and the characters that are shown as
  they are;
* `quote`, `quoteChar`, `quoteString`: a whole text between its quotes.
-/

namespace Lexis.Text

/-- How the character `c` is written between quotes `q`. The null character, the tab, the ends of
lines, the quote and the backslash have short escapes; of the others, those that are not `shown`
are written by their code points. -/
def escape (shown : Char → Bool) (q c : Char) : List Char :=
  if c = '\x00' then ['\\', '0']
  else if c = '\t' then ['\\', 't']
  else if c = '\r' then ['\\', 'r']
  else if c = '\n' then ['\\', 'n']
  else if c = '\\' ∨ c = q then ['\\', c]
  else if shown c then [c]
  else ['\\', 'u', '{'] ++ Nat.toDigits 16 c.toNat ++ ['}']

/-- The characters of a text between quotes `q`. -/
def quote (shown : Char → Bool) (q : Char) (cs : List Char) : List Char :=
  q :: cs.flatMap (escape shown q) ++ [q]

/-- A character between single quotes. -/
def quoteChar (shown : Char → Bool) (c : Char) : String :=
  String.ofList (quote shown '\'' [c])

/-- A text between double quotes. -/
def quoteString (shown : Char → Bool) (s : String) : String :=
  String.ofList (quote shown '"' s.toList)

end Lexis.Text
