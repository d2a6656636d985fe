import Lexis.Analysis
import Lexis.Excerpt

/-!
# The report as a text

An analysis is written as a table of its tokens and one of each sort of symbol, one row a line;
diagnostics are written one after the other with their number at the end.

* `Report.tokenRow`, `Token.row`, `Identifier.row`, `Constant.row`, `Label.row`: the rows;
* `Report.ofAnalysis`, `Report.ofDiagnostics`: the reports.
-/

namespace Lexis

namespace Report

open Text

/-- The five columns of the token table. -/
def tokenRow (id line text code index : String) : String :=
  alignRight 4 id ++ " " ++ alignRight 4 line ++ " " ++ alignLeft 12 text ++ " "
    ++ alignRight 4 code ++ " " ++ alignRight 4 index

/-- A number that may be missing, with a dash in its place. -/
def orDash (n? : Option Nat) : String := n?.elim "-" toString

/-- A line that may be unset, with `-1` in its place. -/
def orUnset (line? : Option UInt32) : String := line?.elim "-1" fun line => toString line.toNat

/-- The rows as lines of a text. -/
def ofRows (rows : List String) : String := String.join (rows.map (· ++ "\n"))

end Report

open Report Text

def Token.row (t : Token) : String :=
  tokenRow (toString t.id) (toString t.line.toNat) t.text (orDash t.kind.code?) (orDash t.index)

def Identifier.row (i : Identifier) : String :=
  alignRight 4 (toString i.index) ++ " " ++ alignLeft 12 i.name ++ " " ++ i.declaredType

def Constant.row (c : Constant) : String :=
  alignRight 4 (toString c.index) ++ " " ++ c.spelling

def Label.row (l : Label) : String :=
  alignRight 4 (toString l.index) ++ " " ++ alignLeft 12 l.name
    ++ " from " ++ alignRight 3 (orUnset l.lineFrom)
    ++ " to " ++ alignRight 3 (orUnset l.lineTo)

namespace Report

/-- The rows of all tables, with a heading before each and a blank line between them. -/
def analysisRows (a : Analysis) : List String :=
  ["Tokens:", tokenRow "id" "line" "text" "code" "idx"] ++ a.tokens.map Token.row
    ++ ["", "Identifiers:"] ++ a.identifiers.map Identifier.row
    ++ ["", "Constants:"] ++ a.constants.map Constant.row
    ++ ["", "Labels:"] ++ a.labels.map Label.row

/-- The tables of an analysis. -/
def ofAnalysis (a : Analysis) : String := ofRows (analysisRows a)

/-- The diagnostics of what `file` holds, and their number. -/
def ofDiagnostics (diagnostics : List Diagnostic) (file content : String) : String :=
  String.join (diagnostics.map fun d => d.render file content)
    ++ toString diagnostics.length ++ " error(s) found\n"

end Report

end Lexis
