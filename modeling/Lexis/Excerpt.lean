import Lexis.Diagnostic
import Lexis.Source
import Lexis.Text.Column
import Lexis.Text.WhiteSpace

/-!
# Excerpts

A diagnostic is shown to a reader by a heading, the name of the file, and the line that it is
about between two bars.

* `Excerpt.heading`, `Excerpt.body`: the parts;
* `Diagnostic.render`: the whole.
-/

namespace Lexis

namespace Excerpt

/-- The name of the fault with its tip, or with its message if there is no tip. -/
def heading (fault : Fault) : String :=
  "Error: " ++ fault.name ++ " (" ++ fault.tip?.getD fault.message ++ ")\n"

/-- Line `n` of the content, trimmed, behind its number; nothing stands for a line that the content
does not have. -/
def shownLine (content : String) (n : Nat) : String :=
  toString n ++ " | " ++ Text.trim ((Source.line? content n).getD "") ++ "\n"

/-- A bar in the column of the bar that follows the number `n`. -/
def bar (n : Nat) : String := Text.alignRight ((toString n).length + 2) "|" ++ "\n"

/-- The line that the diagnostic is about. -/
def body (content : String) : Option UInt32 → String
  | none => "   (whole program)\n"
  | some line => bar line.toNat ++ shownLine content line.toNat ++ bar line.toNat

end Excerpt

/-- The diagnostic as it is shown to a reader of `content`, which is what `file` holds. -/
def Diagnostic.render (d : Diagnostic) (file content : String) : String :=
  Excerpt.heading d.fault ++ "-> " ++ file ++ "\n" ++ Excerpt.body content d.line

end Lexis
