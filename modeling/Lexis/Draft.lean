import Lexis.Lexer
import Lexis.Symbol
import Lexis.SymbolTable

/-!
# Drafts

A draft is what a scan has gathered so far: tokens, symbol tables, diagnostics, and what the first
tokens of the current line say about the identifiers on it.

* `LineContext`: what the line says;
* `Draft`, `Draft.add`: the draft, and the draft with one more piece of the source;
* `Draft.scan`, `Draft.scan_eq_foldl`: the draft of a whole source, piece by piece;
* `Draft.undeclaredLabels`: the faults that only the whole program shows;
* `Draft.void`: the draft without its tokens and tables.
-/

namespace Lexis

/-- What the first token of the current line, labels apart, says about the identifiers on it. -/
inductive LineContext
  /-- There was no such token yet. -/
  | unseen
  /-- The line declares its identifiers, with this type keyword. -/
  | declaration (keyword : String)
  /-- The line only uses its identifiers. -/
  | plain
  deriving DecidableEq, Repr, Inhabited

namespace LineContext

/-- The type that the line gives its identifiers. -/
def declaredType? : LineContext → Option String
  | declaration keyword => some keyword
  | _ => none

/-- The context after one more lexeme. The first one that is no label decides, until the line
ends. -/
def after (context : LineContext) (l : Lexeme) : LineContext :=
  if l.isNewline then .unseen
  else if context = .unseen ∧ l.kind ≠ .label then
    if l.isTypeKeyword then .declaration l.text else .plain
  else context

end LineContext

/-- What a scan has gathered so far. -/
structure Draft where
  tokens : Array Token
  identifiers : SymbolTable Identifier
  constants : SymbolTable Constant
  labels : SymbolTable Label
  diagnostics : Array Diagnostic
  context : LineContext
  deriving Inhabited

namespace Draft

/-- The draft of nothing. -/
def empty : Draft := ⟨#[], .empty, .empty, .empty, #[], .unseen⟩

/-- Put a diagnostic at the end. -/
def report (d : Draft) (diagnostic : Diagnostic) : Draft :=
  { d with diagnostics := d.diagnostics.push diagnostic }

/-- Put a fault on the line of a lexeme at the end, if there is one. -/
def reportAt (d : Draft) (l : Lexeme) (fault? : Option Fault) : Draft :=
  match fault? with
  | some fault => d.report ⟨fault, some l.line⟩
  | none => d

/-- Put a token at the end. -/
def emit (d : Draft) (l : Lexeme) (index : Option Nat) : Draft :=
  { d with
    tokens := d.tokens.push ⟨l, d.tokens.size + 1, index⟩
    context := d.context.after l }

/-- The fault of an identifier: one that was met before must not stand in a declaration, a new one
must. -/
def identifierFault? (d : Draft) (name : String) : Option Fault :=
  match d.identifiers.contains name, d.context.declaredType? with
  | true, some _ => some (.variableRedeclared name)
  | false, none => some (.variableUndeclared name)
  | _, _ => none

/-- Add an identifier. What its first sighting says of its type stays. -/
def addIdentifier (d : Draft) (l : Lexeme) : Draft :=
  let name := l.text
  let declaredType := d.context.declaredType?.getD Identifier.notDeclared
  let interned := d.identifiers.intern name fun index => ⟨name, index, declaredType⟩
  let d := d.reportAt l (d.identifierFault? name)
  { d with identifiers := interned.table }.emit l (some interned.entry.index)

/-- Add a constant. -/
def addConstant (d : Draft) (l : Lexeme) : Draft :=
  let interned := d.constants.intern l.text fun index => ⟨l.text, index⟩
  { d with constants := interned.table }.emit l (some interned.entry.index)

/-- The last token says that a label comes next. -/
def afterGoto (d : Draft) : Bool := d.tokens.back?.any fun token => token.isGoto

/-- The fault of one more reference to a label: at most one `goto` may refer to it. -/
def referenceFault? (label : Label) (name : String) : Option Fault :=
  label.lineFrom.map fun _ => .labelReferencedAgain name

/-- The fault of one more declaration of a label. -/
def declarationFault? (label : Label) (name : String) : Option Fault :=
  label.lineTo.map fun _ => .labelRedeclared name

/-- Add a label: a reference right after a `goto`, a declaration anywhere else. The first line of
each sort stays. -/
def addLabel (d : Draft) (l : Lexeme) : Draft :=
  let name := l.labelName
  let interned := d.labels.intern name fun index => ⟨name, index, none, none⟩
  let label := interned.entry
  let isReference := d.afterGoto
  let fault? :=
    if isReference then referenceFault? label name else declarationFault? label name
  let mark (label : Label) : Label :=
    if isReference then { label with lineFrom := label.lineFrom.or (some l.line) }
    else { label with lineTo := label.lineTo.or (some l.line) }
  let d := d.reportAt l fault?
  { d with labels := interned.table.modify name mark }.emit l (some label.index)

/-- Add a lexeme. -/
def addLexeme (d : Draft) (l : Lexeme) : Draft :=
  match l.kind with
  | .identifier => d.addIdentifier l
  | .constant => d.addConstant l
  | .label => d.addLabel l
  | .spelling _ | .unmapped => d.emit l none

/-- Add a piece of the source. -/
def add (d : Draft) : Piece → Draft
  | .lexeme l => d.addLexeme l
  | .rejected diagnostic => d.report diagnostic
  | .blank => d

/-- Go on from a draft with all pieces of a source. -/
def scanFrom (d : Draft) (table : Spellings) (source : String) : Draft :=
  (Lexer.ofSource source).fold table add d

/-- The draft of a source. -/
def scan (table : Spellings) (source : String) : Draft := empty.scanFrom table source

/-- The labels without a declaration, as faults of the whole program, in the order of the table. -/
def undeclaredLabels (d : Draft) : List Diagnostic :=
  (d.labels.toList.filter fun label => label.lineTo.isNone).map fun label =>
    ⟨.labelNeverDeclared label.name, none⟩

/-- Everything that is wrong: what the scan found in its order, then the labels without a
declaration. -/
def allDiagnostics (d : Draft) : List Diagnostic := d.diagnostics.toList ++ d.undeclaredLabels

/-- Give up the tokens and the tables. Diagnostics stay, and so does what was said of the line. -/
def void (d : Draft) : Draft :=
  { d with
    tokens := #[]
    identifiers := d.identifiers.clear
    constants := d.constants.clear
    labels := d.labels.clear }

theorem scan_eq_foldl (table : Spellings) (source : String) :
    scan table source = ((Lexer.ofSource source).pieces table).foldl add empty :=
  Lexer.fold_eq_foldl ..

@[simp] theorem toList_tokens_emit (d : Draft) (l : Lexeme) (index : Option Nat) :
    (d.emit l index).tokens.toList = d.tokens.toList ++ [⟨l, d.tokens.size + 1, index⟩] := by
  simp [emit]

@[simp] theorem toList_diagnostics_report (d : Draft) (diagnostic : Diagnostic) :
    (d.report diagnostic).diagnostics.toList = d.diagnostics.toList ++ [diagnostic] := by
  simp [report]

@[simp] theorem tokens_reportAt (d : Draft) (l : Lexeme) (fault? : Option Fault) :
    (d.reportAt l fault?).tokens = d.tokens := by
  unfold reportAt; split <;> rfl

theorem toList_diagnostics_reportAt (d : Draft) (l : Lexeme) (fault? : Option Fault) :
    (d.reportAt l fault?).diagnostics.toList =
      d.diagnostics.toList ++ (fault?.map fun fault => ⟨fault, some l.line⟩).toList := by
  unfold reportAt; split <;> simp

end Draft

end Lexis
