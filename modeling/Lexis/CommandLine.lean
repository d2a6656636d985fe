import Lexis.Report.Json
import Lexis.Report.Text

/-!
# The command line

The program reads one file, analyzes it and prints a report.

* `Options`, `Options.parse?`: what the arguments ask for;
* `LoadError`, `decode`: why a file cannot be read;
* `Outcome`, `Options.execute`: what the program prints, and its exit code: 0 for an analysis, 1
  for diagnostics, 2 for a file that cannot be read.
-/

namespace Lexis.CommandLine

/-- The form of the report. -/
inductive Format
  | text
  | json
  deriving DecidableEq, Repr, Inhabited

/-- The form of that name. -/
def Format.ofName? : String → Option Format
  | "text" => some .text
  | "json" => some .json
  | _ => none

/-- What the arguments ask for. -/
structure Options where
  file : String
  format : Format
  deriving DecidableEq, Repr, Inhabited

/-- The arguments that were read so far; none may be given twice. -/
structure Request where
  file : Option String
  format : Option Format
  verbose : Bool
  deriving DecidableEq, Repr

namespace Request

/-- Nothing is asked for yet. -/
def empty : Request := ⟨none, none, false⟩

def withFile? (r : Request) (file : String) : Option Request :=
  if r.file.isNone then some { r with file := some file } else none

def withFormat? (r : Request) (name : String) : Option Request := do
  let format ← Format.ofName? name
  if r.format.isNone then some { r with format := some format } else none

/-- The report does not depend on how much is logged. -/
def withVerbose? (r : Request) : Option Request :=
  if r.verbose then none else some { r with verbose := true }

/-- Read the arguments. After `--` they are all files; before it, one that begins with a dash is an
option. -/
def read? : List String → Request → Option Request
  | [], r => some r
  | "--" :: files, r => files.foldlM withFile? r
  | "--verbose" :: args, r | "-v" :: args, r => do read? args (← r.withVerbose?)
  | "--format" :: name :: args, r | "-f" :: name :: args, r => do
    read? args (← r.withFormat? name)
  | arg :: args, r =>
    if "--format=".isPrefixOf arg then do
      read? args (← r.withFormat? (String.ofList (arg.toList.drop 9)))
    else if "-f".isPrefixOf arg then do
      let name := arg.toList.drop 2
      let name := if name.head? = some '=' then name.tail else name
      read? args (← r.withFormat? (String.ofList name))
    else if arg ≠ "-" ∧ "-".isPrefixOf arg then none
    else do read? args (← r.withFile? arg)

end Request

/-- What the arguments ask for, if they are arguments of the program. -/
def Options.parse? (args : List String) : Option Options := do
  let r ← Request.read? args .empty
  some ⟨← r.file, r.format.getD .text⟩

/-- Why a file cannot be read. -/
inductive LoadError
  | notFound
  | notPermitted
  | isDirectory
  | notText
  /-- The system gives another reason. -/
  | other (reason : String)
  deriving DecidableEq, Repr, Inhabited

/-- The text of a reason. -/
def LoadError.message : LoadError → String
  | notFound => "No such file or directory (os error 2)"
  | notPermitted => "Permission denied (os error 13)"
  | isDirectory => "Is a directory (os error 21)"
  | notText => "stream did not contain valid UTF-8"
  | other reason => reason

/-- The text that a file holds. -/
def decode (bytes : ByteArray) : Except LoadError String :=
  (String.fromUTF8? bytes).elim (.error .notText) .ok

/-- What the program prints, and its exit code. -/
structure Outcome where
  exitCode : UInt32
  stdout : String
  stderr : String
  deriving DecidableEq, Repr, Inhabited

/-- The report on the outcome of an analysis. -/
def Options.report (o : Options) (content : String) :
    Except (List Diagnostic) Analysis → String :=
  match o.format with
  | .json => fun result => (Report.toJson result).pretty ++ "\n"
  | .text => fun
    | .ok analysis => Report.ofAnalysis analysis
    | .error diagnostics => Report.ofDiagnostics diagnostics o.file content

/-- The exit code for the outcome of an analysis. -/
def exitCode : Except (List Diagnostic) Analysis → UInt32
  | .ok _ => 0
  | .error _ => 1

/-- What the program does, given what reading the file gave. -/
def Options.execute (o : Options) : Except LoadError String → Outcome
  | .error e => ⟨2, "", "error: " ++ e.message ++ "\n"⟩
  | .ok content =>
    let result := analyze content
    ⟨exitCode result, o.report content result, ""⟩

/-- What is printed for arguments that are none of the program. -/
def usage : String := "usage: lexan [--format text|json] [--verbose] [--] FILE\n"

end Lexis.CommandLine
