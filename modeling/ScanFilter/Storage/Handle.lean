import ScanFilter.Storage.Stream
/-!
# Handles

A handle is a stream and the position that is recorded for it, where a read without an
offset starts.  Such a read takes bytes from wherever its stream is, without looking; only
a read at an offset, and a read that has failed, makes the stream go to a place.  So a
handle alone does not say that its stream is where the position is recorded.  That is a
fact about the reads that a handle has gone through.

* `read_refused` — an offset that the file refuses leaves the handle alone;
* `read_ok`, `read_error` — what a read leaves behind.
-/

namespace ScanFilter

/-- Goes back to where a read began, if the file lets it. -/
def Stream.rewind (s : Stream) (start : Nat) : Stream :=
  match s.seek start with
  | .ok s => s
  | .error _ => s

/-- An open stream, and the position that the next read without an offset starts at. -/
structure Handle where
  stream : Stream
  position : Nat

namespace Handle

/-- A file that was just opened. -/
def ofSource (s : Source) : Handle := ⟨.ofSource s, 0⟩

/-- The stream at the start of a read, and where that is: at an offset, to which the
stream goes, or else at the recorded position. -/
def moveTo (h : Handle) : Option Nat → Except IoError (Stream × Nat)
  | none => .ok (h.stream, h.position)
  | some offset => (h.stream.seek offset).map fun stream => (stream, offset)

/-- Reads a range.  A read that fails has taken bytes, and goes back to where it began;
its own error is given, also if going back is refused. -/
def read (held : Nat → List UInt8) (capacity : Nat) (h : Handle)
    (offset : Option Nat) (width : Nat) : Except IoError (List UInt8) × Handle :=
  match h.moveTo offset with
  | .error e => (.error e, h)
  | .ok (stream, start) =>
    match stream.takeExact held capacity width with
    | (.ok bytes, stream) => (.ok bytes, ⟨stream, start + width⟩)
    | (.error e, stream) => (.error e, ⟨stream.rewind start, start⟩)

variable {held : Nat → List UInt8} {capacity width start : Nat} {h : Handle}
  {offset : Option Nat} {s t : Stream}

/-- An offset that the file refuses leaves the handle alone. -/
theorem read_refused {e : IoError} (hm : h.moveTo offset = .error e) (width : Nat) :
    h.read held capacity offset width = (.error e, h) := by
  simp [read, hm]

/-- A read records the end of what it gave. -/
theorem read_ok {bytes : List UInt8} (hm : h.moveTo offset = .ok (s, start))
    (taken : s.takeExact held capacity width = (.ok bytes, t)) :
    h.read held capacity offset width = (.ok bytes, ⟨t, start + width⟩) := by
  simp [read, hm, taken]

/-- A read that fails goes back, and records where it began. -/
theorem read_error {e : IoError} (hm : h.moveTo offset = .ok (s, start))
    (taken : s.takeExact held capacity width = (.error e, t)) :
    h.read held capacity offset width = (.error e, ⟨t.rewind start, start⟩) := by
  simp [read, hm, taken]

end Handle

end ScanFilter
