import ScanFilter.Proofs.Outcome
import ScanFilter.Storage.Stream
/-!
# What a stream takes

A stream is **at** a position when the bytes ahead are those from the position up to the
place of the file.  Taking bytes moves it by their number, whatever the file is, and it
stays where the file lets it go back.  In memory a stream that is at a position, with the
bytes of the contents ahead, takes the bytes from there on, or finds that the contents end
before: the capacity of the buffer decides how many turns this takes and nothing else.

* `At.refill`, `At.consume`, `At.takeExact` — where a stream is after it took bytes;
* `On.refill`, `On.consume` — the contents that a stream in memory goes on with;
* `On.takeExact` — what a stream in memory takes.
-/

namespace ScanFilter

namespace Source

/-- A source that can go somewhere can go to all places before. -/
theorem seek_of_le {s : Source} {near far : Nat} (h : s.seek far = .ok ()) (le : near ≤ far) :
    s.seek near = .ok () := by
  cases s with
  | memory contents => rfl
  | _ =>
      refine if_neg fun high => ?_
      have refused := h.symm.trans (if_pos (Nat.le_trans high le))
      cases refused

/-- Every source can go to its start. -/
theorem seek_zero (s : Source) : s.seek 0 = .ok () := by
  cases s <;> rfl

/-- What a source gives is no more than was asked for, from where it can go on. -/
theorem fetch_le {held : Nat → List UInt8} {s : Source} {start count : Nat}
    {bytes : List UInt8} (h : s.fetch held start count = .ok bytes) :
    bytes.length ≤ count ∧ s.seek (start + count) = .ok () := by
  unfold fetch at h
  split at h
  · cases h
  · next reached =>
      obtain ⟨contents, _, rfl⟩ := Outcome.map_eq_ok h
      exact ⟨List.length_take_le .., reached⟩

/-- The bytes of a range are the first ones and those of the rest of the range. -/
theorem slice_append {contents : List UInt8} {start count width : Nat} (le : count ≤ width)
    (inside : start + count ≤ contents.length) :
    (slice contents (start + count) (width - count)).map
        ((contents.drop start).take count ++ ·)
      = slice contents start width := by
  have parts : (contents.drop start).take width = (contents.drop start).take count
      ++ (contents.drop (start + count)).take (width - count) := by
    conv => lhs; rw [show width = count + (width - count) by omega]
    rw [List.take_add, List.drop_drop]
  rw [slice_eq, slice_eq]
  by_cases covered : width = 0 ∨ start + width ≤ contents.length
  · rw [if_pos covered, if_pos (by omega), parts]
    rfl
  · rw [if_neg covered, if_neg (by omega)]
    rfl

end Source

namespace Stream

variable {held : Nat → List UInt8} {capacity missing width position : Nat} {s t : Stream}
  {contents : List UInt8}

/-- Whether a stream is at a position: the bytes ahead are those up to the place of the
file, to which the file can go back. -/
structure At (s : Stream) (position : Nat) : Prop where
  place : s.place = position + s.ahead.length
  reachable : s.source.seek s.place = .ok ()

/-- A stream that went to an offset is there, on the same file. -/
theorem at_of_seek {offset : Nat} (h : s.seek offset = .ok t) :
    t.At offset ∧ t = ⟨s.source, offset, []⟩ := by
  obtain ⟨_, reached, rfl⟩ := Outcome.map_eq_ok h
  exact ⟨⟨rfl, reached⟩, rfl⟩

/-- The file of a stream can go back to where the stream is. -/
theorem At.seek (h : s.At position) : s.seek position = .ok ⟨s.source, position, []⟩ := by
  have back := Source.seek_of_le h.reachable (Nat.le.intro h.place.symm)
  unfold Stream.seek
  rw [back]
  rfl

/-- Fetching leaves a stream on its file. -/
theorem source_refill (filled : s.refill held capacity missing = .ok t) :
    t.source = s.source := by
  unfold refill at filled
  split at filled
  · obtain ⟨found, _, rfl⟩ := Outcome.map_eq_ok filled
    rfl
  · cases filled
    rfl

/-- Fetching leaves a stream where it is. -/
theorem At.refill (h : s.At position) (filled : s.refill held capacity missing = .ok t) :
    t.At position := by
  unfold Stream.refill at filled
  split at filled
  · next empty =>
      obtain ⟨found, fetched, rfl⟩ := Outcome.map_eq_ok filled
      obtain ⟨few, reached⟩ := Source.fetch_le fetched
      have here : s.place = position := by simpa [empty] using h.place
      exact ⟨congrArg (· + found.length) here, Source.seek_of_le reached (by simp only; omega)⟩
  · cases filled
    exact h

/-- Taking bytes that are ahead moves a stream by their number. -/
theorem At.consume (h : s.At position) (count : Nat) :
    (s.consume count).At (position + (s.ahead.take count).length) := by
  refine ⟨?_, h.reachable⟩
  have place := h.place
  unfold Stream.consume
  simp only [List.length_take, List.length_drop]
  omega

/-- **Taking moves a stream.**  A stream that took a number of bytes is behind them, and
it is still on its file, also when it failed to. -/
theorem At.takeExact (h : s.At position) (held : Nat → List UInt8) (capacity width : Nat) :
    (s.takeExact held capacity width).2.source = s.source ∧
    ∀ bytes, (s.takeExact held capacity width).1 = .ok bytes →
      bytes.length = width ∧ (s.takeExact held capacity width).2.At (position + width) := by
  -- By induction on the turns, each of them from where the one before it left the stream.
  induction s, width using Stream.takeExact.induct held capacity generalizing position with
  | case1 s =>
      rw [takeExact_zero]
      refine ⟨rfl, fun bytes given => ?_⟩
      cases given
      exact ⟨rfl, h⟩
  | case2 s width some e refused =>
      rw [takeExact_refused some refused]
      exact ⟨rfl, nofun⟩
  | case3 s width some t filled ended =>
      rw [takeExact_end some filled ended]
      exact ⟨source_refill filled, nofun⟩
  | case4 s width some t filled more ih =>
      have source : t.source = s.source := source_refill filled
      obtain ⟨kept, there⟩ := ih ((h.refill filled).consume width)
      rw [takeExact_turn some filled more]
      refine ⟨kept.trans source, fun bytes given => ?_⟩
      obtain ⟨last, read, rfl⟩ := Outcome.map_eq_ok given
      obtain ⟨count, moved⟩ := there last read
      have whole : (t.ahead.take width).length + (width - t.ahead.length) = width := by
        rw [List.length_take]
        omega
      rw [Nat.add_assoc, whole] at moved
      refine ⟨?_, moved⟩
      rw [List.length_append, count, whole]

/-! ## Streams in memory -/

/-- Whether a stream goes on with some contents in memory from a position on. -/
structure On (s : Stream) (contents : List UInt8) (position : Nat) : Prop where
  source : s.source = .memory contents
  here : s.At position
  agrees : contents.drop position = s.ahead ++ contents.drop s.place

/-- A stream with nothing ahead goes on from the place of its file. -/
theorem on_of_empty (contents : List UInt8) (position : Nat) :
    On ⟨.memory contents, position, []⟩ contents position :=
  ⟨rfl, ⟨rfl, rfl⟩, rfl⟩

/-- Fetching from memory always succeeds. -/
theorem On.exists_refill (h : s.On contents position) (held : Nat → List UInt8)
    (capacity missing : Nat) : ∃ t, s.refill held capacity missing = .ok t := by
  unfold Stream.refill
  rw [h.source, Source.fetch_memory]
  split
  · exact ⟨_, rfl⟩
  · exact ⟨_, rfl⟩

/-- Fetching from memory goes on with the contents, and finds something unless they end. -/
theorem On.refill (h : s.On contents position)
    (filled : s.refill held capacity missing = .ok t) :
    t.On contents position ∧ (t.ahead = [] → missing = 0 ∨ contents.length ≤ position) := by
  have source := (source_refill filled).trans h.source
  have here := h.here.refill filled
  unfold Stream.refill at filled
  split at filled
  · next empty =>
      obtain rfl : s.place = position := by simpa [empty] using h.here.place
      rw [h.source, Source.fetch_memory] at filled
      cases filled
      let found := (contents.drop s.place).take (max missing capacity)
      refine ⟨⟨source, here, ?_⟩, fun ended => ?_⟩
      · have parts := List.take_append_drop found.length (contents.drop s.place)
        have first : (contents.drop s.place).take found.length = found := by
          simp [found, List.take_eq_take_iff]
        rw [first, List.drop_drop] at parts
        exact parts.symm
      · have none := congrArg List.length ended
        simp only [List.length_take, List.length_drop, List.length_nil] at none
        omega
  · next more =>
      cases filled
      exact ⟨h, fun ended => absurd ended more⟩

/-- Taking bytes that are ahead takes those of the contents from the position on. -/
theorem On.consume (h : s.On contents position) (count : Nat) :
    s.ahead.take count = (contents.drop position).take (s.ahead.take count).length ∧
    (s.consume count).On contents (position + (s.ahead.take count).length) := by
  have few : (s.ahead.take count).length ≤ s.ahead.length := List.length_take_le' ..
  have first : s.ahead.take (s.ahead.take count).length = s.ahead.take count := by
    simp [List.take_eq_take_iff]
  have behind : s.ahead.drop (s.ahead.take count).length = s.ahead.drop count := by
    simp [List.drop_eq_drop_iff]
  refine ⟨?_, h.source, h.here.consume count, ?_⟩
  · rw [h.agrees, List.take_append_of_le_length few, first]
  · rw [← List.drop_drop, h.agrees, List.drop_append_of_le_length few, behind]
    rfl

/-- What is ahead is in the contents. -/
theorem On.inside (h : s.On contents position) (more : s.ahead ≠ []) :
    position + s.ahead.length ≤ contents.length := by
  have some := List.length_pos_iff.mpr more
  have count := congrArg List.length h.agrees
  rw [List.length_append, List.length_drop] at count
  omega

/-- **Taking from memory.**  A stream in memory takes the bytes of the contents from where
it is, or finds that they end before, and it goes on behind what it took. -/
theorem On.takeExact (h : s.On contents position) (held : Nat → List UInt8)
    (capacity width : Nat) :
    (s.takeExact held capacity width).1 = Source.slice contents position width ∧
    ∀ bytes, (s.takeExact held capacity width).1 = .ok bytes →
      (s.takeExact held capacity width).2.On contents (position + width) := by
  -- By induction on the turns: one takes the first bytes, and those after it take the rest
  -- of the range.
  induction s, width using Stream.takeExact.induct held capacity generalizing position with
  | case1 s =>
      rw [takeExact_zero]
      exact ⟨(Source.slice_zero ..).symm, fun _ _ => h⟩
  | case2 s width some e refused =>
      obtain ⟨t, filled⟩ := h.exists_refill held capacity width
      cases refused.symm.trans filled
  | case3 s width some t filled ended =>
      have missing := (h.refill filled).2 ended
      have short : ¬ (width = 0 ∨ position + width ≤ contents.length) := by omega
      rw [takeExact_end some filled ended, Source.slice_eq, if_neg short]
      exact ⟨rfl, nofun⟩
  | case4 s width some t filled more ih =>
      have goes := (h.refill filled).1
      obtain ⟨first, moved⟩ := goes.consume width
      have inside := goes.inside more
      have length : (t.ahead.take width).length = min width t.ahead.length := List.length_take
      have remaining : width - t.ahead.length = width - (t.ahead.take width).length := by
        omega
      have whole : (Source.slice contents (position + (t.ahead.take width).length)
          (width - (t.ahead.take width).length)).map
            ((contents.drop position).take (t.ahead.take width).length ++ ·)
          = Source.slice contents position width :=
        Source.slice_append (by omega) (by omega)
      rw [← first, ← remaining] at whole
      obtain ⟨given, behind⟩ := ih moved
      rw [takeExact_turn some filled more]
      refine ⟨(congrArg _ given).trans whole, fun bytes took => ?_⟩
      obtain ⟨last, read, rfl⟩ := Outcome.map_eq_ok took
      have there := behind last read
      rwa [remaining, Nat.add_assoc, Nat.add_sub_cancel' (by omega), ← remaining] at there

end Stream

end ScanFilter
