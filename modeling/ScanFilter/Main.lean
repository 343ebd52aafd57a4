import ScanFilter.CommandLine
/-!
# The program

Reads the arguments, opens the one file that a command works on, and prints what
the command gives.  Everything but the input and output is in
`ScanFilter.CommandLine`.
-/

namespace ScanFilter

/-- A store that knows a single path: what opening it gave, and what it holds. -/
structure OpenedPath where
  opened : Except IoError Source
  contents : List UInt8

instance : FileStore OpenedPath where
  openFile s _ := (s.opened, s)
  held s _ := s.contents
  insert _ _ contents := ⟨.ok (.disk 0), contents⟩
  insertDirectory _ _ := ⟨.ok .directory, []⟩
  remove s _ := ⟨.error .missing, s.contents⟩

/-- Opens a path on disk. -/
def openPath (path : String) : IO OpenedPath := do
  try
    let contents ← IO.FS.readBinFile path
    return ⟨.ok (.disk 0), contents.toList⟩
  catch
    | .noFileOrDirectory .. => return ⟨.error .missing, []⟩
    | .inappropriateType .. => return ⟨.ok .directory, []⟩
    | e => return ⟨.error (.refused .other (toString e)), []⟩

/-- How the program is called. -/
def usage : String :=
  "usage: [-d] [--buffer-capacity N] bytes|int|long|double|compare PATH [options]\n"

end ScanFilter

open ScanFilter in
/-- Runs the program. -/
def main (arguments : List String) : IO UInt32 := do
  let ending ← match CommandLine.parse arguments with
    | some i => i.run <$> openPath i.command.path
    | none => pure .rejected
  (← IO.getStdout).putStr ending.output
  (← IO.getStderr).putStr (ending.report?.getD usage)
  return UInt32.ofNat ending.exitCode
