import ScanFilter.Field
/-!
# Reports of failed commands

A failed command reports what it was about, and under it the chain of causes: a
single cause stands by itself, several are numbered.  The lines of a cause after
its first one are indented as far as the first.

* `CommandError.report` — the report of a failure.
-/

namespace ScanFilter.CommandLine

/-- Why a command failed, and what it was about. -/
inductive CommandError
  | bytes (length : Nat) (path : String) (error : StorageError)
  | field (kind : FieldKind) (path : String) (error : StorageError)
  | literal (kind : FieldKind) (text : String) (error : FilterError)
  | compare (op : ComparisonOperator) (path : String) (error : ProbeError)

/-- A failed read and the cause below it. -/
def storageCauses : StorageError → List String
  | .ioFailure path cause => [(StorageError.ioFailure path cause).message, cause.message]
  | error => [error.message]

/-- An error of a probe and the cause below it. -/
def probeCauses : ProbeError → List String
  | .storage error => storageCauses error
  | .filter error => [error.message]

namespace CommandError

/-- What the command was about. -/
def context : CommandError → String
  | bytes length path _ => s!"Failed to read {length} bytes from {path}"
  | field kind path _ =>
    s!"Failed to read {kind.width}-byte {kind.dataType.name} from {path}"
  | literal kind text _ => s!"Invalid {kind.dataType.name} literal: {text}"
  | compare op path _ => s!"Failed to evaluate {op.name} on {path}"

/-- The chain of causes, the outermost first. -/
def causes : CommandError → List String
  | bytes _ _ error => storageCauses error
  | field _ _ error => storageCauses error
  | literal _ _ error => [error.message]
  | compare _ _ error => probeCauses error

end CommandError

/-- A text whose lines after the first are indented. -/
def indent (width : Nat) (text : List Char) : List Char :=
  text.flatMap fun c => if c = '\n' then '\n' :: List.replicate width ' ' else [c]

/-- A cause behind its number. -/
def numbered (n : Nat) (cause : String) : List Char :=
  let number := Numeral.digits n
  List.replicate (5 - number.length) ' ' ++ number ++ ':' :: ' ' :: indent 7 cause.toList

/-- The lines of a chain of causes. -/
def causeLines : List String → List (List Char)
  | [cause] => [List.replicate 4 ' ' ++ indent 4 cause.toList]
  | causes => causes.mapIdx numbered

/-- The report of a failure. -/
def CommandError.report (e : CommandError) : String :=
  "Error: " ++ e.context ++ "\n\nCaused by:"
    ++ String.ofList ((causeLines e.causes).flatMap ('\n' :: ·)) ++ "\n"

end ScanFilter.CommandLine
