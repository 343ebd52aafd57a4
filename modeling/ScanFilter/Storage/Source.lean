import ScanFilter.Storage.Fault
/-!
# Open files

An open file is a source of bytes.  A file in memory keeps the contents that it
had when it was opened.  A file on disk is known by its number, and it gives what
the disk holds under that number when it is asked.  A directory can be opened and
not read.  Memory takes any offset; the disk refuses to go to `2 ^ 63`, or past
it, or to read up to there.

* `fetch_memory` — memory gives the bytes from an offset on as far as there are;
* `slice_eq_ok_iff`, `slice_eq` — a range is given exactly when there are all of its
  bytes;
* `slice_zero` — asking for nothing always succeeds.
-/

namespace ScanFilter

/-- An open file. -/
inductive Source
  /-- The contents when the file was opened. -/
  | memory (contents : List UInt8)
  /-- A file on disk, by its number. -/
  | disk (file : Nat)
  | directory
  deriving DecidableEq

namespace Source

/-- Whether a source can go to an offset. -/
def seek : Source → Nat → Except IoError Unit
  | memory _, _ => .ok ()
  | disk _, offset | directory, offset =>
    if 0x8000000000000000 ≤ offset then .error .seekRefused else .ok ()

/-- All bytes of a source, given what each file on disk holds. -/
def contents (held : Nat → List UInt8) : Source → Except IoError (List UInt8)
  | memory bytes => .ok bytes
  | disk file => .ok (held file)
  | directory => .error .isADirectory

/-- The bytes of a source from an offset on, at most so many. -/
def fetch (held : Nat → List UInt8) (s : Source) (start count : Nat) :
    Except IoError (List UInt8) :=
  match s.seek (start + count) with
  | .error e => .error e
  | .ok () => (s.contents held).map fun bytes => (bytes.drop start).take count

/-- The bytes of a range of some contents; all of them or none. -/
def slice (contents : List UInt8) (start width : Nat) : Except IoError (List UInt8) :=
  let bytes := (contents.drop start).take width
  if bytes.length = width then .ok bytes else .error .endOfFile

/-- Memory gives the bytes from an offset on as far as there are. -/
@[simp] theorem fetch_memory (held : Nat → List UInt8) (bytes : List UInt8)
    (start count : Nat) :
    (memory bytes).fetch held start count = .ok ((bytes.drop start).take count) := rfl

/-- A range is given exactly when there are all of its bytes. -/
theorem slice_eq_ok_iff {contents bytes : List UInt8} {start width : Nat} :
    slice contents start width = .ok bytes ↔
      (width = 0 ∨ start + width ≤ contents.length) ∧
        bytes = (contents.drop start).take width := by
  unfold slice
  simp only [List.length_take, List.length_drop]
  constructor
  · intro h
    split at h
    · cases h
      exact ⟨by omega, rfl⟩
    · cases h
  · rintro ⟨hw, rfl⟩
    rw [if_pos (by omega)]

/-- A range is given, or else the contents end before it does. -/
theorem slice_eq (contents : List UInt8) (start width : Nat) :
    slice contents start width
      = if width = 0 ∨ start + width ≤ contents.length then
          .ok ((contents.drop start).take width)
        else .error .endOfFile := by
  split
  · next covered => exact slice_eq_ok_iff.mpr ⟨covered, rfl⟩
  · next short =>
      unfold slice
      simp only [List.length_take, List.length_drop]
      rw [if_neg (by omega)]

/-- Asking for nothing always succeeds. -/
theorem slice_zero (contents : List UInt8) (start : Nat) :
    slice contents start 0 = .ok [] := by
  simp [slice]

end Source

end ScanFilter
