import ScanFilter.Storage.Source
/-!
# Streams

A stream is an open file behind a buffer.  The file itself is at some place, and the
bytes before this place that were fetched and that nobody took yet are ahead.  Bytes are
taken from those ahead; when there are none, the file is asked once, for what is missing
or for a buffer full when that is more, and what is not taken stays ahead.

A number of bytes is taken in turns.  A turn that gives nothing has reached the end of
the file.  Then the bytes that were taken in the turns before are lost, and the stream is
somewhere behind the place where it began: to go back is left to whoever asked.

A file on disk can change between two turns.  Bytes ahead are then those of the time when
they were fetched.

* `takeExact_zero`, `takeExact_refused`, `takeExact_end`, `takeExact_turn` — the turns of
  taking a number of bytes.
-/

namespace ScanFilter

/-- An open file behind a buffer: the place that the file itself is at, and the bytes
before it that were fetched and not taken. -/
structure Stream where
  source : Source
  place : Nat
  ahead : List UInt8

namespace Stream

/-- A file that was just opened. -/
def ofSource (s : Source) : Stream := ⟨s, 0, []⟩

/-- Goes to an offset; what is ahead is dropped, unless the file refuses to go there. -/
def seek (s : Stream) (offset : Nat) : Except IoError Stream :=
  (s.source.seek offset).map fun _ => ⟨s.source, offset, []⟩

/-- Fetches what is missing, or a buffer full when that is more, if nothing is ahead. -/
def refill (held : Nat → List UInt8) (capacity : Nat) (s : Stream) (missing : Nat) :
    Except IoError Stream :=
  if s.ahead = [] then
    (s.source.fetch held s.place (max missing capacity)).map fun found =>
      ⟨s.source, s.place + found.length, found⟩
  else .ok s

/-- Takes bytes that are ahead. -/
def consume (s : Stream) (count : Nat) : Stream := { s with ahead := s.ahead.drop count }

/-- Takes a number of bytes, in as many turns as it needs. -/
def takeExact (held : Nat → List UInt8) (capacity : Nat) (s : Stream) (width : Nat) :
    Except IoError (List UInt8) × Stream :=
  if width = 0 then (.ok [], s)
  else
    match s.refill held capacity width with
    | .error e => (.error e, s)
    | .ok filled =>
      if _ : filled.ahead = [] then (.error .endOfFile, filled)
      else
        let rest := (filled.consume width).takeExact held capacity
          (width - filled.ahead.length)
        (rest.1.map (filled.ahead.take width ++ ·), rest.2)
termination_by width
decreasing_by
  have taken := List.length_pos_iff.mpr ‹filled.ahead ≠ []›
  omega

variable {held : Nat → List UInt8} {capacity width : Nat} {s t : Stream}

/-- Nothing is taken in no turn. -/
theorem takeExact_zero (held : Nat → List UInt8) (capacity : Nat) (s : Stream) :
    s.takeExact held capacity 0 = (.ok [], s) := by
  rw [takeExact, if_pos rfl]

/-- A turn that the file refuses ends the taking. -/
theorem takeExact_refused {e : IoError} (some : width ≠ 0)
    (h : s.refill held capacity width = .error e) :
    s.takeExact held capacity width = (.error e, s) := by
  rw [takeExact, if_neg some, h]

/-- A turn that gives nothing has reached the end of the file. -/
theorem takeExact_end (some : width ≠ 0) (h : s.refill held capacity width = .ok t)
    (ended : t.ahead = []) : s.takeExact held capacity width = (.error .endOfFile, t) := by
  rw [takeExact, if_neg some, h]
  simp only [dif_pos ended]

/-- A turn that gives bytes leaves the rest to the turns after it. -/
theorem takeExact_turn (some : width ≠ 0) (h : s.refill held capacity width = .ok t)
    (more : t.ahead ≠ []) :
    s.takeExact held capacity width
      = (((t.consume width).takeExact held capacity (width - t.ahead.length)).1.map
          (t.ahead.take width ++ ·),
        ((t.consume width).takeExact held capacity (width - t.ahead.length)).2) := by
  rw [takeExact, if_neg some, h]
  simp only [dif_neg more]

end Stream

end ScanFilter
