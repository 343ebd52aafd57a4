import ScanFilter.CommandLine.Arguments
import ScanFilter.CommandLine.Report
/-!
# The command line

A command shows a range of bytes, shows a field, or compares a field with a
literal, each through a fresh reader.  A literal is read before the file is
touched.

* `execute` — how an invocation ends, on a given store of files;
* `Command.run` — what a command prints, or why it failed.
-/

namespace ScanFilter.CommandLine

/-- How a program run ends. -/
inductive Ending
  /-- The arguments are rejected. -/
  | rejected
  | succeeded (output : String)
  | failed (error : CommandError)

namespace Ending

/-- The exit code of a program run. -/
def exitCode : Ending → Nat
  | rejected => 2
  | succeeded _ => 0
  | failed _ => 1

/-- What a program run prints. -/
def output : Ending → String
  | succeeded output => output
  | rejected | failed _ => ""

/-- What a program run reports; nothing is fixed for rejected arguments. -/
def report? : Ending → Option String
  | rejected => none
  | succeeded _ => some ""
  | failed error => some error.report

end Ending

variable {σ : Type} [FileStore σ]

/-- The two lines that show a range of bytes: in hexadecimal, and as text. -/
def showBytes (bytes : List UInt8) : String :=
  Hex.spaced bytes ++ "\n" ++ Utf8.lenient bytes ++ "\n"

/-- Carries out a command: what it prints, or why it failed. -/
def Command.run (r : Reader σ) : Command → Except CommandError String
  | bytes path offset length =>
    match (r.readBytes path offset length).1 with
    | .ok contents => .ok (showBytes contents)
    | .error e => .error (.bytes length path e)
  | field path offset kind =>
    match (r.readField path offset kind).1 with
    | .ok v => .ok (v.text ++ "\n")
    | .error e => .error (.field kind path e)
  | compare path offset kind op text =>
    match kind.parseLiteral text with
    | .error e => .error (.literal kind text e)
    | .ok literal =>
      match (r.compareField path offset kind op literal).1 with
      | .ok b => .ok (truthText b ++ "\n")
      | .error e => .error (.compare op path e)

/-- Carries out an invocation with a fresh reader. -/
def Invocation.run (files : σ) (i : Invocation) : Ending :=
  match i.command.run (Reader.new files i.config) with
  | .ok output => .succeeded output
  | .error e => .failed e

/-- Reads and carries out an invocation. -/
def execute (files : σ) (arguments : List String) : Ending :=
  match parse arguments with
  | some i => i.run files
  | none => .rejected

end ScanFilter.CommandLine
