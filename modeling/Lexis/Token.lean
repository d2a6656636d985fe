import Lexis.Spellings

/-!
# Lexemes and tokens

A lexeme is a piece of the source text with its line and kind. A token is a lexeme in its place in
the stream: it has a number and may point into a symbol table.

* `Kind`: what a lexeme is, with `Kind.code?`, the number that stands for it;
* `Lexeme`, `Token`, with the questions that the lexer and the checks ask of them: `isOperand`,
  `isGoto`, `isTypeKeyword`, `isNewline`;
* `Lexeme.labelName`: the name of a label, whose text may end in a colon.
-/

namespace Lexis

/-- What a lexeme is. -/
inductive Kind
  /-- A keyword, an operator or a newline that the spelling table gives a code. -/
  | spelling (code : Nat)
  | identifier
  | constant
  | label
  /-- An operator that the spelling table leaves without a code. -/
  | unmapped
  deriving DecidableEq, Repr, Inhabited

namespace Kind

/-- The number that stands for the kind in a token table. -/
def code? : Kind → Option Nat
  | spelling code => some code
  | identifier => some 100
  | constant => some 101
  | label => some 102
  | unmapped => none

/-- The kind is keyed by a code of the spelling table. -/
def isSpelling : Kind → Bool
  | spelling _ => true
  | _ => false

/-- The name of the kind; a spelling is named by its code. -/
def display : Kind → String
  | spelling code => toString code
  | identifier => "Identifier"
  | constant => "Constant"
  | label => "Label"
  | unmapped => "Unmapped"

end Kind

/-- The text of newline lexemes. -/
def newlineText : String := "¶"

/-- A piece of the source text. -/
structure Lexeme where
  line : UInt32
  text : String
  kind : Kind
  deriving DecidableEq, Repr, Inhabited

namespace Lexeme

/-- Identifiers and constants: after one of them a minus is an operator. -/
def isOperand (l : Lexeme) : Bool := l.kind = .identifier || l.kind = .constant

/-- The next word names a label. The text alone decides, whatever the kind. -/
def isGoto (l : Lexeme) : Bool := l.text = gotoSpelling

/-- The lexeme opens a declaration. -/
def isTypeKeyword (l : Lexeme) : Bool := l.kind.isSpelling && Lexis.isTypeKeyword l.text

/-- The lexeme ends a line. -/
def isNewline (l : Lexeme) : Bool := l.text = newlineText

/-- The name of a label: its text, less the colon that may end it. -/
def labelName (l : Lexeme) : String :=
  let text := l.text.toList
  if text.getLast? = some ':' then String.ofList text.dropLast else l.text

end Lexeme

/-- A lexeme in its place in the stream. -/
structure Token extends Lexeme where
  /-- The place in the stream, counted from 1. -/
  id : Nat
  /-- The index of the symbol that the token stands for. -/
  index : Option Nat
  deriving DecidableEq, Repr, Inhabited

end Lexis
