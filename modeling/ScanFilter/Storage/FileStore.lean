import ScanFilter.Storage.PathMap
import ScanFilter.Storage.Source
/-!
# Stores of files

A file store opens files by their path, and its files can be written and
removed.

Files in memory are told apart by their whole path, and there are no
directories.  A file that is open keeps the contents it had when it was opened.
The store counts the times a file was asked for; a path that the store is set up
to refuse is refused before it counts.

* `openFile_found`, `openFile_missing` — opening a path that is not refused;
* `openFile_count` — what one opening adds to the count.
-/

namespace ScanFilter

/-- A store of files. -/
class FileStore (σ : Type) where
  /-- Opens a file. -/
  openFile : σ → String → Except IoError Source × σ
  /-- What the file of a number holds; a store without numbers holds nothing. -/
  held : σ → Nat → List UInt8
  /-- Writes contents to the file of a path. -/
  insert : σ → String → List UInt8 → σ
  /-- Makes the directory of a path. -/
  insertDirectory : σ → String → σ
  /-- Removes a path. -/
  remove : σ → String → σ

/-- Files in memory. -/
structure MemoryStore where
  files : PathMap (List UInt8)
  refusals : PathMap IoError
  openCount : Nat

namespace MemoryStore

/-- A store that was not used yet and refuses nothing. -/
def ofFiles (files : PathMap (List UInt8)) : MemoryStore := ⟨files, .empty, 0⟩

/-- Opens a file: counts the opening unless the path is refused. -/
def openFile (m : MemoryStore) (path : String) : Except IoError Source × MemoryStore :=
  match m.refusals.get? path with
  | some refusal => (.error refusal, m)
  | none =>
    let counted := { m with openCount := m.openCount + 1 }
    match m.files.get? path with
    | some contents => (.ok (.memory contents), counted)
    | none => (.error (.unknownFile path), counted)

instance : FileStore MemoryStore where
  openFile := openFile
  held _ _ := []
  insert m path contents := { m with files := m.files.insert path contents }
  insertDirectory m _ := m
  remove m path := { m with files := m.files.erase path }

/-- One opening adds one to the count, and nothing for a refused path. -/
theorem openFile_count (m : MemoryStore) (path : String) :
    (m.openFile path).2.openCount
      = m.openCount + if (m.refusals.get? path).isSome then 0 else 1 := by
  unfold openFile
  cases m.refusals.get? path with
  | some _ => rfl
  | none => cases m.files.get? path <;> rfl

/-- A path that is not refused is opened with the contents it has. -/
theorem openFile_found {m : MemoryStore} {path : String} {contents : List UInt8}
    (hr : m.refusals.get? path = none) (hc : m.files.get? path = some contents) :
    m.openFile path = (.ok (.memory contents), { m with openCount := m.openCount + 1 }) := by
  simp [openFile, hr, hc]

/-- A path without contents is not opened. -/
theorem openFile_missing {m : MemoryStore} {path : String}
    (hr : m.refusals.get? path = none) (hc : m.files.get? path = none) :
    m.openFile path
      = (.error (.unknownFile path), { m with openCount := m.openCount + 1 }) := by
  simp [openFile, hr, hc]

/-- Opening a file changes neither the files nor the refusals. -/
theorem openFile_files (m : MemoryStore) (path : String) :
    (m.openFile path).2.files = m.files ∧ (m.openFile path).2.refusals = m.refusals := by
  unfold openFile
  cases m.refusals.get? path with
  | some _ => exact ⟨rfl, rfl⟩
  | none => cases m.files.get? path <;> exact ⟨rfl, rfl⟩

end MemoryStore

end ScanFilter
