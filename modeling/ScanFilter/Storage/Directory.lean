import ScanFilter.Storage.FileStore
import ScanFilter.Text.Utf8
/-!
# A directory on disk

The files around a working directory.  A path is walked part by part from the
working directory, or from the root when it starts with a slash: every part but
the last must lead to a directory, an empty part and a single dot stay, two dots
go up.  A place is given by the names that lead to it, after as many steps up as
it takes from the working directory.

Files are numbered as they are made.  Writing to a path that leads to a file
gives that file new contents, which everyone sees who has it open.  Removing a
path takes the name away and not the contents, so whoever has the file open
still reads it, and a file that is made under the name again has a new number.
Writing makes the directories that lead to the file; a write or a removal that
the path does not allow changes nothing else.

* `resolve` — what a path leads to, or why it leads nowhere;
* `insert`, `remove` — writing to a path and removing it;
* `splitPath_plain` — a path without a slash is a single part.
-/

namespace ScanFilter

/-- What a name in a directory stands for: a file, by its number, or a
directory. -/
inductive Node
  | file (number : Nat)
  | directory
  deriving DecidableEq

/-- The parts of a path between its slashes. -/
def splitPath : List Char → List (List Char)
  | [] => [[]]
  | '/' :: cs => [] :: splitPath cs
  | c :: cs =>
    match splitPath cs with
    | [] => [[c]]
    | part :: parts => (c :: part) :: parts

/-- Whether a part of a path stays where it is. -/
def isStay (part : List Char) : Bool := part == [] || part == ['.']

/-- Whether a part of a path goes up. -/
def isUp (part : List Char) : Bool := part == ['.', '.']

/-- Whether a part of a path is too long for a name. -/
def isTooLong (part : List Char) : Bool := 255 < (part.flatMap Utf8.encodeChar).length

/-- The nodes around a working directory, each with the names that lead to it,
and the contents of the files by their number. -/
structure Directory where
  nodes : List (List (List Char) × Node)
  contents : List (List UInt8)

namespace Directory

/-- A working directory with nothing in it. -/
def empty : Directory := ⟨[], []⟩

/-- The place of the root.  No part of a path is a slash. -/
def root : List (List Char) := [['/']]

/-- The place one step up.  The root is its own parent. -/
def parent (here : List (List Char)) : List (List Char) :=
  if here = root then root
  else if here.all isUp then here ++ [['.', '.']]
  else here.dropLast

/-- The node that a list of names leads to.  The root, the working directory and
the directories above it are always there. -/
def node? (d : Directory) (names : List (List Char)) : Option Node :=
  if names = root ∨ names.all isUp then some .directory else d.nodes.lookup names

/-- What the file of a number holds. -/
def held (d : Directory) (number : Nat) : List UInt8 := d.contents.getD number []

/-- Walks the parts of a path from the place that a list of names leads to. -/
def walk (d : Directory) (here : List (List Char)) :
    List (List Char) → Except IoError Node
  | [] =>
    match d.node? here with
    | some node => .ok node
    | none => .error .missing
  | part :: parts =>
    match d.node? here with
    | none => .error .missing
    | some (.file _) => .error .notADirectory
    | some .directory =>
      if isStay part then d.walk here parts
      else if isUp part then d.walk (parent here) parts
      else if isTooLong part then .error .nameTooLong
      else d.walk (here ++ [part]) parts

/-- Where the walk of a path starts. -/
def start (path : List Char) : List (List Char) :=
  if path.head? = some '/' then root else []

/-- What keeps a path from being walked at all. -/
def refusal? (path : List Char) : Option IoError :=
  if '\x00' ∈ path then some .nulInName
  else if path = [] then some .missing
  else if 4096 ≤ (path.flatMap Utf8.encodeChar).length then some .nameTooLong
  else none

/-- The node that a path leads to. -/
def resolve (d : Directory) (path : List Char) : Except IoError Node :=
  match refusal? path with
  | some e => .error e
  | none => d.walk (start path) (splitPath path)

/-- Opens a file or a directory. -/
def openFile (d : Directory) (path : String) : Except IoError Source :=
  (d.resolve path.toList).map fun
    | .file number => .disk number
    | .directory => .directory

/-- Makes the directories that are missing on a walk.  Beside them the result has
the place where the walk ends, unless a file stands in the way. -/
def reach (d : Directory) (here : List (List Char)) :
    List (List Char) → Directory × Option (List (List Char))
  | [] => (d, some here)
  | part :: parts =>
    if isStay part then d.reach here parts
    else if isUp part then d.reach (parent here) parts
    else if isTooLong part then (d, none)
    else
      let there := here ++ [part]
      match d.node? there with
      | some .directory => d.reach there parts
      | some (.file _) => (d, none)
      | none => reach ⟨(there, .directory) :: d.nodes, d.contents⟩ there parts

/-- Gives a file new contents. -/
def overwrite (d : Directory) (number : Nat) (bytes : List UInt8) : Directory :=
  ⟨d.nodes, d.contents.set number bytes⟩

/-- Makes a file with the next number under a list of names. -/
def create (d : Directory) (names : List (List Char)) (bytes : List UInt8) : Directory :=
  ⟨(names, .file d.contents.length) :: d.nodes, d.contents ++ [bytes]⟩

/-- Writes to the file of a list of names, which is made when there is none. -/
def write (d : Directory) (names : List (List Char)) (bytes : List UInt8) : Directory :=
  match d.node? names with
  | some (.file number) => d.overwrite number bytes
  | some .directory => d
  | none => d.create names bytes

/-- Writes contents to the file of a path. -/
def insert (d : Directory) (path : String) (bytes : List UInt8) : Directory :=
  let path := path.toList
  let parts := splitPath path
  let last := parts.getLastD []
  if (refusal? path).isSome then d
  else
    match d.reach (start path) (parts.filter (!isStay ·)).dropLast with
    | (d, none) => d
    | (d, some here) =>
      if isStay last || isUp last || isTooLong last then d
      else d.write (here ++ [last]) bytes

/-- Makes the directory of a path. -/
def insertDirectory (d : Directory) (path : String) : Directory :=
  let path := path.toList
  if (refusal? path).isSome then d else (d.reach (start path) (splitPath path)).1

/-- Takes the name of a file away; a directory stays. -/
def remove (d : Directory) (path : String) : Directory :=
  match d.resolve path.toList with
  | .ok (.file number) => ⟨d.nodes.filter (·.2 ≠ .file number), d.contents⟩
  | _ => d

/-- A working directory with files, and directories where there are no contents,
made in the order of the list. -/
def ofList (entries : List (String × Option (List UInt8))) : Directory :=
  entries.foldl
    (fun d entry => match entry with
      | (path, some bytes) => d.insert path bytes
      | (path, none) => d.insertDirectory path)
    empty

instance : FileStore Directory where
  openFile d path := (d.openFile path, d)
  held := held
  insert := insert
  insertDirectory := insertDirectory
  remove := remove

/-- A path without a slash is a single part. -/
theorem splitPath_plain {cs : List Char} (h : '/' ∉ cs) : splitPath cs = [cs] := by
  induction cs with
  | nil => rfl
  | cons c cs ih =>
      have hc : c ≠ '/' := fun e => h (e ▸ List.mem_cons_self)
      have hcs := ih fun e => h (List.mem_cons_of_mem c e)
      unfold splitPath
      split
      · next e => cases e
      · next e => exact absurd (List.cons.inj e).1 hc
      · next e =>
          obtain ⟨rfl, rfl⟩ := List.cons.inj e
          rw [hcs]

end Directory

end ScanFilter
