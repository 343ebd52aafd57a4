import ScanFilter.Proofs.Storage.View
/-!
# Files on disk read like contents in memory

A file on disk that nobody writes to gives the bytes that its contents would give in
memory, and a handle on it reads as the same handle would that is on these contents.
The one difference is at the end of the offsets that a disk takes: it refuses to go to
`2 ^ 63`, and it refuses to be read up to there, if only to fill the buffer.

* `Stream.takeExact_on_disk`, `Handle.read_on_disk` — a stream and a handle on disk beside
  the same ones in memory;
* `Handle.ShowsOnDisk.read` — a read through a handle on disk, by its view;
* `Reader.slice_of_fetch_new` — what a new reader gives is a span of the contents;
* `Reader.fetch_new` — the first read of a reader, at any offset and of any width.
-/

namespace ScanFilter

/-- A disk goes to every offset below the first one that it refuses. -/
theorem Source.seek_disk {offset : Nat} (h : offset < 0x8000000000000000) (file : Nat) :
    (disk file).seek offset = .ok () :=
  if_neg (Nat.not_le.mpr h)

theorem Source.seek_disk_refused {offset : Nat} (h : 0x8000000000000000 ≤ offset)
    (file : Nat) : (disk file).seek offset = .error .seekRefused :=
  if_pos h

/-- Where a disk refuses nothing it gives what memory would give. -/
theorem Source.fetch_disk {start count : Nat} (h : start + count < 0x8000000000000000)
    (held : Nat → List UInt8) (file : Nat) :
    (disk file).fetch held start count = (memory (held file)).fetch held start count := by
  rw [fetch, seek_disk h]
  rfl

/-- Whatever a disk gives, memory would give. -/
theorem Source.fetch_of_disk {held : Nat → List UInt8} {file start count : Nat}
    {bytes : List UInt8} (h : (disk file).fetch held start count = .ok bytes) :
    (memory (held file)).fetch held start count = .ok bytes := by
  unfold fetch at h
  split at h
  · cases h
  · exact h

/-- Whether a disk serves a span of a file with some view: nothing is asked for, or
neither the span nor a buffer full, from its start or from the end of the file on,
reaches the offsets that the disk refuses. -/
def View.Served (v : View) (capacity : Nat) (g : Span) : Prop :=
  g.width = 0 ∨
    v.start g + g.width < 0x8000000000000000 ∧ v.start g + capacity < 0x8000000000000000 ∧
      v.contents.length + capacity < 0x8000000000000000

namespace Stream

/-- The same stream on another source. -/
def withSource (s : Stream) (source : Source) : Stream := { s with source }

variable {held : Nat → List UInt8} {capacity missing width position start file : Nat}
  {s t : Stream}

/-- Where a disk can be asked, a stream on it fetches as in memory. -/
theorem refill_on_disk (source : s.source = .memory (held file))
    (near : s.ahead = [] → s.place + max missing capacity < 0x8000000000000000) :
    (s.withSource (.disk file)).refill held capacity missing
      = (s.refill held capacity missing).map (·.withSource (.disk file)) := by
  unfold refill withSource
  simp only
  by_cases empty : s.ahead = []
  · rw [if_pos empty, if_pos empty, source, Source.fetch_disk (near empty)]
    rfl
  · rw [if_neg empty, if_neg empty]
    rfl

/-- What a stream on disk fetches, it would fetch in memory. -/
theorem refill_of_disk (source : s.source = .memory (held file))
    (filled : (s.withSource (.disk file)).refill held capacity missing = .ok t) :
    ∃ u, s.refill held capacity missing = .ok u ∧ t = u.withSource (.disk file) := by
  unfold refill withSource at *
  simp only at filled
  split at filled
  · next empty =>
      obtain ⟨found, fetched, rfl⟩ := Outcome.map_eq_ok filled
      rw [if_pos empty, source, Source.fetch_of_disk fetched]
      exact ⟨_, rfl, rfl⟩
  · next more =>
      cases filled
      exact ⟨s, if_neg more, rfl⟩

/-- What is served of a span, after some of its bytes were taken from the contents. -/
theorem served_rest {contents : List UInt8} {count : Nat}
    (served : (View.mk contents position).Served capacity ⟨none, width⟩)
    (few : count ≤ width) (inside : position + count ≤ contents.length) :
    (View.mk contents (position + count)).Served capacity ⟨none, width - count⟩ := by
  rcases served with none | ⟨span, _, last⟩
  · have zero : width = 0 := none
    exact .inl (by simp only; omega)
  · simp only [View.start, Option.getD_none] at span last
    exact .inr ⟨by simp only [View.start, Option.getD_none]; omega,
      by simp only [View.start, Option.getD_none]; omega, last⟩

/-- A turn that a disk serves is the same as in memory. -/
theorem refill_of_served (goesOn : s.On (held file) position) (some : width ≠ 0)
    (served : (View.mk (held file) position).Served capacity ⟨none, width⟩)
    (filled : s.refill held capacity width = .ok t) :
    (s.withSource (.disk file)).refill held capacity width
      = .ok (t.withSource (.disk file)) := by
  rw [refill_on_disk goesOn.source, filled]
  · rfl
  · intro empty
    have here : s.place = position := by simpa [empty] using goesOn.here.place
    have parts := served.resolve_left some
    simp only [View.start, Option.getD_none] at parts
    omega

/-- **Taking from disk.**  Where a disk serves a span, a stream on it takes the span as in
memory, turn by turn. -/
theorem takeExact_on_disk (goesOn : s.On (held file) position)
    (served : (View.mk (held file) position).Served capacity ⟨none, width⟩) :
    (s.withSource (.disk file)).takeExact held capacity width
      = ((s.takeExact held capacity width).1,
          (s.takeExact held capacity width).2.withSource (.disk file)) := by
  -- By induction on the turns in memory: each is the same turn on disk.
  induction s, width using Stream.takeExact.induct held capacity generalizing position with
  | case1 s => rw [takeExact_zero, takeExact_zero]
  | case2 s width some e refused =>
      obtain ⟨t, filled⟩ := goesOn.exists_refill held capacity width
      cases refused.symm.trans filled
  | case3 s width some t filled ended =>
      have filled' := refill_of_served goesOn some served filled
      rw [takeExact_end some filled ended, takeExact_end some filled' ended]
  | case4 s width some t filled more ih =>
      have filled' := refill_of_served goesOn some served filled
      have next := (goesOn.refill filled).1
      have inside := next.inside more
      have length : (t.ahead.take width).length = min width t.ahead.length := List.length_take
      have remaining : width - t.ahead.length = width - (t.ahead.take width).length := by
        omega
      have rest : (View.mk (held file) (position + (t.ahead.take width).length)).Served capacity
          ⟨none, width - (t.ahead.take width).length⟩ :=
        served_rest served (by omega) (by omega)
      rw [← remaining] at rest
      have later := ih (next.consume width).2 rest
      rw [takeExact_turn some filled more, takeExact_turn some filled' more]
      exact congrArg (fun r => (r.1.map (t.ahead.take width ++ ·), r.2)) later

/-- What a stream on disk takes, it would take in memory. -/
theorem takeExact_of_disk {bytes : List UInt8} (source : s.source = .memory (held file))
    (taken : ((s.withSource (.disk file)).takeExact held capacity width).1 = .ok bytes) :
    (s.takeExact held capacity width).1 = .ok bytes := by
  -- By induction on the turns on disk, none of which memory would refuse.
  obtain ⟨d, same⟩ : ∃ d, s.withSource (.disk file) = d := ⟨_, rfl⟩
  rw [same] at taken
  induction d, width using Stream.takeExact.induct held capacity generalizing s bytes with
  | case1 d =>
      rw [takeExact_zero] at taken ⊢
      exact taken
  | case2 d width some e refused =>
      rw [takeExact_refused some refused] at taken
      cases taken
  | case3 d width some t filled ended =>
      rw [takeExact_end some filled ended] at taken
      cases taken
  | case4 d width some t filled more ih =>
      subst same
      rw [takeExact_turn some filled more] at taken
      obtain ⟨u, filled', rfl⟩ := refill_of_disk source filled
      obtain ⟨last, read, rfl⟩ := Outcome.map_eq_ok taken
      have source' : (u.consume width).source = .memory (held file) :=
        (source_refill filled').trans source
      have given := ih source' read rfl
      rw [takeExact_turn some filled' more]
      exact congrArg (Except.map (u.ahead.take width ++ ·)) given

/-- A stream with nothing ahead takes nothing where the disk refuses to fill the buffer. -/
theorem takeExact_disk_refused (some : width ≠ 0)
    (beyond : 0x8000000000000000 ≤ start + max width capacity) :
    (Stream.mk (.disk file) start []).takeExact held capacity width
      = (.error .seekRefused, ⟨.disk file, start, []⟩) := by
  refine takeExact_refused some ?_
  rw [refill, if_pos rfl]
  simp only [Source.fetch, Source.seek_disk_refused beyond]
  rfl

/-- A stream with nothing ahead takes a span that the file covers in one turn, where the
disk fills the buffer. -/
theorem takeExact_disk_covered (some : width ≠ 0)
    (near : start + max width capacity < 0x8000000000000000)
    (covered : start + width ≤ (held file).length) :
    ((Stream.mk (.disk file) start []).takeExact held capacity width).1
      = .ok (((held file).drop start).take width) := by
  let found := ((held file).drop start).take (max width capacity)
  have enough : width ≤ found.length := by
    simp only [found, List.length_take, List.length_drop]
    omega
  have filled : (Stream.mk (.disk file) start []).refill held capacity width
      = .ok ⟨.disk file, start + found.length, found⟩ := by
    rw [refill, if_pos rfl, Source.fetch_disk near]
    rfl
  have more : found ≠ [] := List.length_pos_iff.mp (by omega)
  have first : found.take width = ((held file).drop start).take width := by
    rw [List.take_take, Nat.min_eq_left (Nat.le_max_left ..)]
  rw [takeExact_turn some filled more, Nat.sub_eq_zero_of_le enough, takeExact_zero, ← first]
  exact congrArg Except.ok (List.append_nil _)

/-- A stream on disk goes back where the disk goes to. -/
theorem rewind_on_disk {contents : List UInt8} (source : s.source = .memory contents)
    (near : start < 0x8000000000000000) :
    (s.withSource (.disk file)).rewind start
      = (s.rewind start).withSource (.disk file) := by
  unfold rewind seek withSource
  simp only [source, Source.seek_disk near]
  rfl

end Stream

namespace Handle

/-- The same handle on another source. -/
def withSource (h : Handle) (s : Source) : Handle := ⟨h.stream.withSource s, h.position⟩

variable {held : Nat → List UInt8} {capacity width file : Nat} {h : Handle} {v : View}

/-- A handle on disk begins a read like the same handle in memory, where the disk goes to
the offset of the read. -/
theorem moveTo_on_disk {contents : List UInt8} {offset : Option Nat} {s : Stream}
    {start : Nat} (source : h.stream.source = .memory contents)
    (seekable : ∀ o, offset = some o → o < 0x8000000000000000)
    (moved : h.moveTo offset = .ok (s, start)) :
    (h.withSource (.disk file)).moveTo offset = .ok (s.withSource (.disk file), start) := by
  cases offset with
  | none =>
      cases moved
      rfl
  | some o =>
      unfold moveTo Stream.seek at moved ⊢
      have low := seekable o rfl
      simp only [source] at moved
      cases moved
      simp only [withSource, Stream.withSource, Source.seek_disk low]
      rfl

/-- Where a disk serves a span, a handle on it reads the span as in memory. -/
theorem read_on_disk (hs : h.Shows v) (stored : held file = v.contents) (g : Span)
    (seekable : ∀ offset, g.offset = some offset → offset < 0x8000000000000000)
    (served : v.Served capacity g) :
    (h.withSource (.disk file)).read held capacity g.offset g.width
      = ((h.read held capacity g.offset g.width).1,
          (h.read held capacity g.offset g.width).2.withSource (.disk file)) := by
  obtain ⟨s, moved, goesOn⟩ := hs.moveTo g
  have moved' : (h.withSource (.disk file)).moveTo g.offset
      = .ok (s.withSource (.disk file), v.start g) :=
    moveTo_on_disk hs.goesOn.source seekable moved
  have kept := (goesOn.here.takeExact held capacity g.width).1
  have same : (s.withSource (.disk file)).takeExact held capacity g.width
      = ((s.takeExact held capacity g.width).1,
          (s.takeExact held capacity g.width).2.withSource (.disk file)) := by
    rw [← stored] at goesOn
    refine Stream.takeExact_on_disk goesOn ?_
    rw [stored]
    exact served
  rcases taken : s.takeExact held capacity g.width with ⟨result, t⟩
  rw [taken] at same kept
  rcases result with e | bytes
  · have near : v.start g < 0x8000000000000000 := by
      rcases served with none | ⟨span, _⟩
      · rw [none, Stream.takeExact_zero] at taken
        cases taken
      · omega
    rw [read_error moved taken, read_error moved' same,
      Stream.rewind_on_disk (kept.trans goesOn.source) near]
    rfl
  · rw [read_ok moved taken, read_ok moved' same]
    rfl

/-- Whether a handle on a file on disk has a view: the same handle in memory has it. -/
def ShowsOnDisk (held : Nat → List UInt8) (k : Handle) (v : View) : Prop :=
  ∃ (h : Handle) (file : Nat), h.Shows v ∧ held file = v.contents ∧
    k = h.withSource (.disk file)

theorem showsOnDisk_ofSource (held : Nat → List UInt8) (file : Nat) :
    (ofSource (.disk file)).ShowsOnDisk held (.opened (held file)) :=
  ⟨ofSource (.memory (held file)), file, shows_ofSource (held file), rfl, rfl⟩

/-- Where the disk serves its span, a read gives the span of the contents, and the
handle has the view after it. -/
theorem ShowsOnDisk.read {k : Handle} (hk : k.ShowsOnDisk held v) {g : Span}
    (seekable : ∀ offset, g.offset = some offset → offset < 0x8000000000000000)
    (served : v.Served capacity g) :
    (k.read held capacity g.offset g.width).1 = v.slice g ∧
    (k.read held capacity g.offset g.width).2.ShowsOnDisk held (v.advance g) := by
  obtain ⟨h, file, shows, stored, rfl⟩ := hk
  obtain ⟨given, next⟩ := shows.read held capacity g
  rw [read_on_disk shows stored g seekable served]
  exact ⟨given, _, file, next, stored, rfl⟩

/-! ## The first read -/

/-- A disk that refuses to go to the offset of a read refuses the read. -/
theorem read_far {offset : Option Nat} (far : 0x8000000000000000 ≤ offset.getD 0)
    (width : Nat) :
    ((ofSource (.disk file)).read held capacity offset width).1 = .error .seekRefused := by
  rcases offset with _ | o
  · -- Without an offset the read starts at zero, where the disk goes to.
    exact absurd far (by decide)
  · have high : 0x8000000000000000 ≤ o := far
    have refused : (ofSource (.disk file)).moveTo (some o) = .error .seekRefused := by
      simp only [moveTo, Stream.seek, ofSource, Stream.ofSource, Source.seek_disk_refused high]
      rfl
    rw [read_refused refused]

/-- A new handle on disk goes to every offset below the first one that it refuses. -/
theorem moveTo_ofSource_disk {offset : Option Nat}
    (near : offset.getD 0 < 0x8000000000000000) :
    (ofSource (.disk file)).moveTo offset
      = .ok (⟨.disk file, offset.getD 0, []⟩, offset.getD 0) := by
  rcases offset with _ | o
  · rfl
  · have low : o < 0x8000000000000000 := near
    simp only [moveTo, Stream.seek, ofSource, Stream.ofSource, Source.seek_disk low]
    rfl

/-- What the first read through a handle on disk gives, where the disk goes to its offset,
is what its stream takes. -/
theorem fst_read_ofSource_disk {offset : Option Nat}
    (near : offset.getD 0 < 0x8000000000000000) :
    ((ofSource (.disk file)).read held capacity offset width).1
      = ((Stream.mk (.disk file) (offset.getD 0) []).takeExact held capacity width).1 := by
  have moved : (ofSource (.disk file)).moveTo offset = _ := moveTo_ofSource_disk near
  rcases taken : (Stream.mk (.disk file) (offset.getD 0) []).takeExact held capacity width
    with ⟨e | bytes, t⟩
  · rw [read_error moved taken]
  · rw [read_ok moved taken]

/-- What the first read through a handle on disk gives is the span of the contents, however
little the disk serves beyond it. -/
theorem slice_of_read_disk {offset : Option Nat} {bytes : List UInt8}
    (h : ((ofSource (.disk file)).read held capacity offset width).1 = .ok bytes) :
    Source.slice (held file) (offset.getD 0) width = .ok bytes := by
  by_cases far : 0x8000000000000000 ≤ offset.getD 0
  · rw [read_far far] at h
    cases h
  · rw [fst_read_ofSource_disk (Nat.not_le.mp far)] at h
    have goesOn := Stream.on_of_empty (held file) (offset.getD 0)
    have taken : ((Stream.mk (.memory (held file)) (offset.getD 0) []).takeExact held capacity
        width).1 = .ok bytes := Stream.takeExact_of_disk rfl h
    exact (goesOn.takeExact held capacity width).1.symm.trans taken

/-- **The first read through a handle on disk** gives just the spans that start where the
disk goes to and that the file covers, if nothing is asked for or the disk can be asked for
a buffer full from their start on. -/
theorem read_ofSource_disk (held : Nat → List UInt8) (capacity file : Nat)
    (offset : Option Nat) (width : Nat) :
    let start := offset.getD 0
    let result := ((ofSource (.disk file)).read held capacity offset width).1
    let refused := 0x8000000000000000 ≤ start ∨
      width ≠ 0 ∧ 0x8000000000000000 ≤ start + max width capacity
    if ¬ refused ∧ (width = 0 ∨ start + width ≤ (held file).length) then
      result = .ok (((held file).drop start).take width)
    else ∃ cause, result = .error cause ∧ (refused → cause = .seekRefused) := by
  intro start result refused
  by_cases far : 0x8000000000000000 ≤ start
  · rw [if_neg fun good => good.1 (.inl far)]
    exact ⟨_, read_far far width, fun _ => rfl⟩
  have near : start < 0x8000000000000000 := Nat.not_le.mp far
  have took : result = ((Stream.mk (.disk file) start []).takeExact held capacity width).1 :=
    fst_read_ofSource_disk near
  by_cases none : width = 0
  · subst none
    rw [if_pos ⟨fun refused => refused.elim far fun r => r.1 rfl, .inl rfl⟩, took,
      Stream.takeExact_zero, List.take_zero]
  by_cases beyond : 0x8000000000000000 ≤ start + max width capacity
  · rw [if_neg fun good => good.1 (.inr ⟨none, beyond⟩), took,
      Stream.takeExact_disk_refused none beyond]
    exact ⟨_, rfl, fun _ => rfl⟩
  have served : ¬ refused := fun refused => refused.elim far fun r => beyond r.2
  by_cases covered : start + width ≤ (held file).length
  · rw [if_pos ⟨served, .inr covered⟩, took,
      Stream.takeExact_disk_covered none (Nat.not_le.mp beyond) covered]
  · rw [if_neg fun good => good.2.elim none covered]
    rcases read : result with e | bytes
    · exact ⟨e, rfl, fun refused => absurd refused served⟩
    · have inside := (Source.slice_eq_ok_iff.mp (slice_of_read_disk read)).1
      exact absurd inside (not_or.mpr ⟨none, covered⟩)

end Handle

/-- Whether a path of a store leads to a file on disk with some contents. -/
def OnDisk {σ : Type} [FileStore σ] (files : σ) (path : String) (contents : List UInt8) :
    Prop :=
  ∃ file after, FileStore.openFile files path = (.ok (.disk file), after) ∧
    FileStore.held after file = contents

namespace Reader

variable {σ : Type} [FileStore σ] {files : σ} {path : String} {contents : List UInt8}
  {config : ReaderConfig}

/-- A new reader opens the file for its first read. -/
theorem fetch_new_eq {file : Nat} {after : σ}
    (opened : FileStore.openFile files path = (.ok (.disk file), after))
    (offset : Option Nat) (width : Nat) :
    ((Reader.new files config).fetch path offset width).1
      = (((Handle.ofSource (.disk file)).read (FileStore.held after) config.bufferCapacity
          offset width).1).mapError (.ioFailure path) := by
  have missing : (Reader.new files config).handle? path = none := rfl
  have acquired : (Reader.new files config).acquire path
      = (.ok (Handle.ofSource (.disk file)),
          (Reader.new after config).put path (Handle.ofSource (.disk file))) := by
    rw [acquire_eq, missing, show (Reader.new files config).store = files from rfl, opened]
    rfl
  unfold fetch
  rw [acquired]
  rfl

/-- What a new reader gives of a file on disk is the span of its contents. -/
theorem slice_of_fetch_new (h : OnDisk files path contents) {offset : Option Nat}
    {width : Nat} {bytes : List UInt8}
    (found : ((Reader.new files config).fetch path offset width).1 = .ok bytes) :
    Source.slice contents (offset.getD 0) width = .ok bytes := by
  obtain ⟨file, after, opened, rfl⟩ := h
  rw [fetch_new_eq opened] at found
  rcases read : ((Handle.ofSource (.disk file)).read (FileStore.held after)
      config.bufferCapacity offset width).1 with e | given
  · rw [read] at found
    cases found
  · rw [read] at found
    cases found
    exact Handle.slice_of_read_disk read

/-- **The first read of a reader.**  Of a file on disk a new reader gives just the spans that
the file covers and the disk serves: it goes to their start, and unless nothing is asked for
a buffer full from there on, or the span if that is more, stays below the offsets that it
refuses.  Any other span fails at the path, and for its offset if the disk does not serve
it. -/
theorem fetch_new (h : OnDisk files path contents) (config : ReaderConfig)
    (offset : Option Nat) (width : Nat) :
    let start := offset.getD 0
    let result := ((Reader.new files config).fetch path offset width).1
    let refused := 0x8000000000000000 ≤ start ∨
      width ≠ 0 ∧ 0x8000000000000000 ≤ start + max width config.bufferCapacity
    if ¬ refused ∧ (width = 0 ∨ start + width ≤ contents.length) then
      result = .ok ((contents.drop start).take width)
    else ∃ cause, result = .error (.ioFailure path cause) ∧
      (refused → cause = .seekRefused) := by
  obtain ⟨file, after, opened, rfl⟩ := h
  intro start result refused
  have made : result = _ := fetch_new_eq opened offset width
  have read := Handle.read_ofSource_disk (FileStore.held after) config.bufferCapacity file
    offset width
  simp only at read
  rw [made]
  split
  · next good =>
      rw [if_pos good] at read
      rw [read]
      rfl
  · next bad =>
      rw [if_neg bad] at read
      obtain ⟨cause, failed, cause_eq⟩ := read
      rw [failed]
      exact ⟨cause, rfl, cause_eq⟩

end Reader

end ScanFilter
