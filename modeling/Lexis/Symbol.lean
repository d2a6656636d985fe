/-!
# Symbols

The things that a program names: identifiers, constants and labels.

* `Symbol`: what they share, a name and an index;
* `Identifier`, `Constant`, `Label`;
* `Identifier.notDeclared`: the declared type of an identifier that was first met outside a
  declaration.
-/

namespace Lexis

/-- Things that have a name and a place in a table. -/
class Symbol (α : Type) where
  name : α → String
  index : α → Nat

/-- The first symbol of that name. -/
def Symbol.find? {α : Type} [Symbol α] (symbols : List α) (name : String) : Option α :=
  symbols.find? fun symbol => Symbol.name symbol = name

/-- A variable of the program. -/
structure Identifier where
  name : String
  index : Nat
  /-- The keyword of the declaration that the identifier was first met in. -/
  declaredType : String
  deriving DecidableEq, Repr, Inhabited

/-- The declared type of an identifier that was first met outside a declaration. -/
def Identifier.notDeclared : String := "Not Declared"

/-- The identifier was first met in a declaration. -/
def Identifier.isDeclared (i : Identifier) : Bool := i.declaredType ≠ notDeclared

instance : Symbol Identifier := ⟨Identifier.name, Identifier.index⟩

/-- A number of the program, told from others by its spelling. -/
structure Constant where
  spelling : String
  index : Nat
  deriving DecidableEq, Repr, Inhabited

instance : Symbol Constant := ⟨Constant.spelling, Constant.index⟩

/-- A jump target of the program. -/
structure Label where
  name : String
  index : Nat
  /-- The line of the `goto` that refers to the label. -/
  lineFrom : Option UInt32
  /-- The line that declares the label as a jump target. -/
  lineTo : Option UInt32
  deriving DecidableEq, Repr, Inhabited

instance : Symbol Label := ⟨Label.name, Label.index⟩

end Lexis
