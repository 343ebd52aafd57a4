import ScanFilter.Proofs.Storage.Cursor
/-!
# Where a cursor can be

A read that finds its bytes moves the cursor by its width, and nothing checks that the sum
fits into a word.  It does.  The bytes of a read that asks for some are all in the file,
so the sum is no more than the length of the contents.  A read that asks for nothing, or
fails, leaves the cursor where it started, and that can be far behind the end of the file:
at an offset that a read of this handle named, and offsets are words.

A run is looked at fetch by fetch, because a filter reads several fields in one step.

* `trace` — the fetches of a run, and where it finishes;
* `Placed.fetch`, `Placed.sum` — what one read makes of the cursors;
* `Placed.step`, `Placed.run` — the cursors at every fetch of a step and of a run;
* `cursor_never_wraps` — no sum of a run leaves the words.
-/

namespace ScanFilter

/-- What a run does with handles: a reader fetches a span of a path, or closes them all. -/
inductive Event (σ : Type)
  | fetch (reader : Reader σ) (path : String) (g : Span)
  | finish

namespace Reader

section AnyStore

variable {σ : Type} [FileStore σ]

/-- The fetches of spans of a path in turn, up to the first that cannot be read. -/
def fetches (r : Reader σ) (path : String) : List Span → List (Event σ)
  | [] => []
  | g :: gs =>
    .fetch r path g :: match r.fetch path g.offset g.width with
      | (.error _, _) => []
      | (.ok _, r) => r.fetches path gs

/-- What a step does with handles. -/
def events (r : Reader σ) : Step → List (Event σ)
  | .finish => [.finish]
  | s =>
    match s.reading? r.config.maxReadLength with
    | some path => r.fetches path (s.spans r.config.maxReadLength)
    | none => []

/-- What a run of steps does with handles. -/
def trace (r : Reader σ) : List Step → List (Event σ)
  | [] => []
  | s :: steps => r.events s ++ (r.step s).2.trace steps

/-- Where a span of a path starts: at its offset, or else at the cursor. -/
def start (r : Reader σ) (path : String) (g : Span) : Nat := g.offset.getD (r.cursor path)

/-- Whether the handle of a path is open on some contents, with the cursor at some place. -/
def OpenAt (r : Reader σ) (path : String) (contents : List UInt8) (cursor : Nat) : Prop :=
  ∃ h, r.handle? path = some h ∧ h.stream.source = .memory contents ∧ h.position = cursor

end AnyStore

end Reader

/-- Whether the handle that a path has after some events took a read at an offset: a fetch
that left a handle, which was not closed since. -/
def Requested {σ : Type} [FileStore σ] (past : List (Event σ)) (path : String)
    (offset : Nat) : Prop :=
  ∃ before r g later, past = before ++ .fetch r path g :: later ∧ .finish ∉ later ∧
    g.offset = some offset ∧ (r.fetch path g.offset g.width).2.isCached path = true

/-- Whether every handle of a reader is open on contents in memory, with its cursor within
them or at an offset that a read of it named before. -/
def Reader.InPlace (r : Reader MemoryStore) (past : List (Event MemoryStore)) : Prop :=
  ∀ path h, r.handle? path = some h → ∃ contents, h.stream.source = .memory contents ∧
    (h.position ≤ contents.length ∨ Requested past path h.position)

/-- Whether the offset of a span, if it has one, is a word. -/
def Span.Word (g : Span) : Prop :=
  ∀ offset, g.offset = some offset → offset < 0x10000000000000000

/-- Whether a file is shorter than `2 ^ 63` bytes. -/
def Bytes.Small (bytes : List UInt8) : Prop := bytes.length < 0x8000000000000000

instance (bytes : List UInt8) : Decidable (Bytes.Small bytes) :=
  inferInstanceAs (Decidable (_ < _))

/-- Whether a step writes no file but a small one, and reads at no offset but a word. -/
structure Step.Bounded (limit : Nat) (s : Step) : Prop where
  contents : ∀ path bytes, s = .insert path bytes → Bytes.Small bytes
  offsets : ∀ g ∈ s.spans limit, g.Word

/-! ## One read -/

/-- Whether a view of a path after some events has small contents, a word for a cursor,
and the cursor in place. -/
structure View.Placed (past : List (Event MemoryStore)) (path : String) (v : View) :
    Prop where
  small : Bytes.Small v.contents
  word : v.cursor < 0x10000000000000000
  place : v.cursor ≤ v.contents.length ∨ Requested past path v.cursor

/-- Whether the files of a reader after some events are small, and its handles show views
that are in place. -/
structure Placed (past : List (Event MemoryStore)) (r : Reader MemoryStore) : Prop where
  files : ∀ path bytes, r.store.files.get? path = some bytes → Bytes.Small bytes
  handles : ∀ path h, r.handle? path = some h → ∃ v, h.Shows v ∧ v.Placed past path

section

variable {past : List (Event MemoryStore)} {r : Reader MemoryStore} {path : String}
  {g : Span} {v : View}

/-- What was requested stays so when there are more fetches. -/
theorem Requested.fetch {offset : Nat} (h : Requested past path offset) (q : String) :
    Requested (past ++ [.fetch r q g]) path offset := by
  obtain ⟨before, t, k, later, rfl, unfinished, named, cached⟩ := h
  refine ⟨before, t, k, later ++ [.fetch r q g], ?_, ?_, named, cached⟩
  · rw [List.append_assoc, List.cons_append]
  · simpa using unfinished

namespace View.Placed

theorem fetch (h : v.Placed past path) (q : String) :
    v.Placed (past ++ [.fetch r q g]) path :=
  ⟨h.small, h.word, h.place.imp_right fun requested => requested.fetch q⟩

/-- Where a span starts is a word. -/
theorem start (h : v.Placed past path) (word : g.Word) :
    v.start g < 0x10000000000000000 := by
  unfold View.start
  cases offset : g.offset with
  | none => exact h.word
  | some o => exact word o offset

/-- A span that is covered ends in a word: within the contents, or where it starts. -/
theorem last (h : v.Placed past path) (word : g.Word) (covered : v.Covers g) :
    v.start g + g.width < 0x10000000000000000 := by
  have first := h.start word
  have small := h.small
  unfold Bytes.Small at small
  rcases covered with none | inside
  · omega
  · omega

/-- A read that leaves a handle leaves its cursor in place. -/
theorem advance (h : v.Placed past path) (word : g.Word)
    (cached : (r.fetch path g.offset g.width).2.isCached path = true) :
    (v.advance g).Placed (past ++ [.fetch r path g]) path := by
  have started : v.start g ≤ v.contents.length ∨
      Requested (past ++ [.fetch r path g]) path (v.start g) := by
    unfold View.start
    cases offset : g.offset with
    | none => exact (h.fetch path).place
    | some o => exact .inr ⟨past, r, g, [], rfl, List.not_mem_nil, offset, cached⟩
  unfold View.advance
  by_cases covered : v.Covers g
  · rw [if_pos covered]
    refine ⟨h.small, h.last word covered, ?_⟩
    rcases covered with none | inside
    · rw [none]
      exact started
    · exact .inl inside
  · rw [if_neg covered]
    exact ⟨h.small, h.start word, started⟩

end View.Placed

/-- A file that memory opens is one that it has. -/
theorem MemoryStore.openFile_ok {m : MemoryStore} {source : Source}
    (h : (m.openFile path).1 = .ok source) :
    ∃ contents, source = .memory contents ∧ m.files.get? path = some contents := by
  unfold openFile at h
  cases refused : m.refusals.get? path with
  | some refusal =>
      rw [refused] at h
      cases h
  | none =>
      rw [refused] at h
      cases held : m.files.get? path with
      | none =>
          rw [held] at h
          cases h
      | some contents =>
          rw [held] at h
          cases h
          exact ⟨contents, rfl, rfl⟩

namespace Placed

/-- Acquiring a handle keeps everything in place, and the handle shows a view with the
cursor of its path. -/
theorem acquire (h : Placed past r) (path : String) :
    Placed past (r.acquire path).2 ∧
    ∀ handle, (r.acquire path).1 = .ok handle →
      ∃ v, handle.Shows v ∧ v.Placed past path ∧ v.cursor = r.cursor path := by
  rw [Reader.acquire_eq]
  unfold Reader.cursor
  cases held : r.handle? path with
  | some k =>
      refine ⟨h, fun handle same => ?_⟩
      cases same
      obtain ⟨v, shows, placed⟩ := h.handles path k held
      exact ⟨v, shows, placed, shows.cursor.symm⟩
  | none =>
      obtain ⟨⟨opened, store⟩, made⟩ :
          ∃ result, FileStore.openFile r.store path = result := ⟨_, rfl⟩
      rw [made]
      have kept : store.files = r.store.files := by
        have same := (r.store.openFile_files path).1
        rwa [show r.store.openFile path = _ from made] at same
      have files : ∀ q bytes, store.files.get? q = some bytes → Bytes.Small bytes := by
        rw [kept]
        exact h.files
      cases opened with
      | error e => exact ⟨⟨files, h.handles⟩, fun handle same => nomatch same⟩
      | ok source =>
          obtain ⟨contents, rfl, found⟩ : ∃ contents, source = .memory contents ∧
              r.store.files.get? path = some contents :=
            MemoryStore.openFile_ok (congrArg Prod.fst made)
          have shows := Handle.shows_ofSource contents
          have placed : (View.opened contents).Placed past path :=
            ⟨h.files path contents found, Nat.two_pow_pos 64, .inl (Nat.zero_le _)⟩
          refine ⟨⟨files, fun q k here => ?_⟩, fun handle same => ?_⟩
          · rw [Reader.handle?_put] at here
            split at here
            · next same =>
                cases here
                exact ⟨_, shows, same ▸ placed⟩
            · exact h.handles q k here
          · cases same
            exact ⟨_, shows, placed, rfl⟩

/-- A read fails to acquire a handle, or it reads a span of a view with the cursor of the
path and leaves a handle that shows the view after it. -/
theorem read (h : Placed past r) (path : String) (g : Span) :
    (∃ e, r.fetch path g.offset g.width = (.error e, (r.acquire path).2)) ∨
    ∃ (v : View) (k : Handle), v.Placed past path ∧ v.cursor = r.cursor path ∧
      k.Shows (v.advance g) ∧
      r.fetch path g.offset g.width
        = ((v.slice g).mapError (.ioFailure path), (r.acquire path).2.put path k) := by
  obtain ⟨_, acquired⟩ := h.acquire path
  unfold Reader.fetch
  cases same : r.acquire path with
  | mk result after =>
      rw [same] at acquired
      cases result with
      | error e => exact .inl ⟨_, rfl⟩
      | ok handle =>
          obtain ⟨v, shows, placed, cursor⟩ := acquired handle rfl
          obtain ⟨given, moved⟩ :=
            shows.read (FileStore.held after.store) after.config.bufferCapacity g
          refine .inr ⟨v, _, placed, cursor, moved, ?_⟩
          rw [← given]

/-- **One read.**  A read at a word, or from the cursor on, keeps everything in place. -/
theorem fetch (h : Placed past r) (path : String) (word : g.Word) :
    Placed (past ++ [.fetch r path g]) (r.fetch path g.offset g.width).2 := by
  obtain ⟨acquired, _⟩ := h.acquire path
  rcases h.read path g with ⟨e, failed⟩ | ⟨v, k, placed, _, shows, found⟩
  · rw [failed]
    refine ⟨acquired.files, fun q handle here => ?_⟩
    obtain ⟨v, shows, placed⟩ := acquired.handles q handle here
    exact ⟨v, shows, placed.fetch path⟩
  · have cached : (r.fetch path g.offset g.width).2.isCached path = true := by
      rw [found, Reader.isCached_put]
      simp
    have advanced := placed.advance word cached
    rw [found]
    refine ⟨acquired.files, fun q handle here => ?_⟩
    rw [Reader.handle?_put] at here
    split at here
    · next same =>
        cases here
        exact ⟨_, shows, same ▸ advanced⟩
    · obtain ⟨w, shows, placed⟩ := acquired.handles q handle here
      exact ⟨w, shows, placed.fetch path⟩

/-- **One sum.**  A read that gives bytes leaves its handle on contents that it is within,
unless it asked for nothing, with the cursor at a sum that is a word. -/
theorem sum (h : Placed past r) (word : g.Word) {bytes : List UInt8}
    {after : Reader MemoryStore}
    (given : r.fetch path g.offset g.width = (.ok bytes, after)) :
    ∃ contents, after.OpenAt path contents (r.start path g + g.width) ∧
      (r.start path g + g.width ≤ contents.length ∨ g.width = 0) ∧
      r.start path g + g.width < 0x10000000000000000 := by
  rcases h.read path g with ⟨e, failed⟩ | ⟨v, k, placed, cursor, shows, found⟩
  · rw [failed] at given
    cases given
  · rw [found] at given
    obtain ⟨read, rfl⟩ := Prod.mk.inj given
    have covered : v.Covers g := by
      by_contra short
      rw [View.slice_of_not_covers short] at read
      cases read
    have start : r.start path g = v.start g := by
      unfold Reader.start View.start
      rw [cursor]
    have ends : k.position = v.start g + g.width := by
      rw [shows.cursor, View.advance, if_pos covered]
    rw [start]
    refine ⟨v.contents, ⟨k, ?_, shows.goesOn.source, ends⟩, covered.symm,
      placed.last word covered⟩
    rw [Reader.handle?_put, if_pos rfl]

end Placed

/-! ## Steps and runs -/

/-- Whether every fetch among some events, which come after others, reads at a word or
from the cursor on through a reader that has everything in place. -/
def PlacedAlong (past : List (Event MemoryStore)) : List (Event MemoryStore) → Prop
  | [] => True
  | .fetch r path g :: later =>
    (Placed past r ∧ g.Word) ∧ PlacedAlong (past ++ [.fetch r path g]) later
  | .finish :: later => PlacedAlong (past ++ [.finish]) later

namespace PlacedAlong

theorem append {events more : List (Event MemoryStore)} (h : PlacedAlong past events)
    (h' : PlacedAlong (past ++ events) more) : PlacedAlong past (events ++ more) := by
  induction events generalizing past with
  | nil => rwa [List.append_nil] at h'
  | cons e events ih =>
      rw [List.append_cons] at h'
      cases e with
      | fetch r path g => exact ⟨h.1, ih h.2 h'⟩
      | finish => exact ih h h'

/-- Wherever the events are split at a fetch. -/
theorem fetch {base events later : List (Event MemoryStore)} (h : PlacedAlong base events)
    (split : events = past ++ .fetch r path g :: later) :
    Placed (base ++ past) r ∧ g.Word := by
  induction past generalizing base events with
  | nil =>
      subst split
      rw [List.append_nil]
      exact h.1
  | cons e past ih =>
      subst split
      rw [List.append_cons]
      cases e with
      | fetch t q k => exact ih h.2 rfl
      | finish => exact ih h rfl

end PlacedAlong

namespace Reader

variable {σ : Type} [FileStore σ] {t : Reader σ} {s : Step}

/-- A step that reads fetches the spans of its path. -/
theorem events_of_reading (h : s.reading? t.config.maxReadLength = some path) :
    t.events s = t.fetches path (s.spans t.config.maxReadLength) := by
  unfold events
  cases s with
  | finish => cases h
  | _ => simp only [h]

/-- A step that neither reads nor finishes does nothing with handles. -/
theorem events_of_not_reading (h : s.reading? t.config.maxReadLength = none)
    (hf : s ≠ .finish) : t.events s = [] := by
  unfold events
  cases s with
  | finish => exact absurd rfl hf
  | _ => simp only [h]

end Reader

/-- A path has the contents after a step that it had before, or those that were written. -/
theorem Step.nextContents_eq_some {s : Step} {now : Option (List UInt8)}
    {bytes : List UInt8} (h : s.nextContents path now = some bytes) :
    now = some bytes ∨ s = .insert path bytes := by
  cases s with
  | insert q written =>
      simp only [nextContents] at h
      split at h
      · next same =>
          cases h
          exact .inr (same ▸ rfl)
      · exact .inl h
  | remove q =>
      simp only [nextContents] at h
      split at h
      · cases h
      · exact .inl h
  | _ => exact .inl h

namespace Placed

theorem finish (h : Placed past r) : Placed (past ++ [.finish]) r.finish :=
  ⟨h.files, fun _ _ here => nomatch here⟩

/-- Spans that are read in turn keep everything in place. -/
theorem visit (h : Placed past r) (path : String) {gs : List Span}
    (words : ∀ g ∈ gs, g.Word) :
    PlacedAlong past (r.fetches path gs) ∧
    Placed (past ++ r.fetches path gs) (r.visit path gs) := by
  induction gs generalizing past r with
  | nil =>
      refine ⟨trivial, ?_⟩
      rw [Reader.fetches, List.append_nil]
      exact h
  | cons g gs ih =>
      obtain ⟨word, words⟩ := List.forall_mem_cons.mp words
      have moved := h.fetch path word
      unfold Reader.fetches Reader.visit
      generalize r.fetch path g.offset g.width = read at moved
      obtain ⟨result, after⟩ := read
      cases result with
      | error e => exact ⟨⟨⟨h, word⟩, trivial⟩, moved⟩
      | ok bytes =>
          obtain ⟨along, placed⟩ := ih moved words
          rw [List.append_cons]
          exact ⟨⟨⟨h, word⟩, along⟩, placed⟩

/-- A step that does not read changes the files at most. -/
theorem step_of_not_reading {s : Step} (h : Placed past r)
    (bounded : s.Bounded r.config.maxReadLength)
    (hr : s.reading? r.config.maxReadLength = none) (hf : s ≠ .finish) :
    Placed past (r.step s).2 := by
  rw [Reader.step_of_not_reading hr hf]
  refine ⟨fun path bytes here => ?_, h.handles⟩
  rw [MemoryStore.files_write] at here
  rcases Step.nextContents_eq_some here with held | written
  · refine h.files path bytes ?_
    cases hd : s.direct? with
    | none =>
        rw [hd] at held
        exact held
    | some opened =>
        rw [hd] at held
        rw [← (r.store.openFile_files opened).1]
        exact held
  · exact bounded.contents path bytes written

/-- **One step.**  A bounded step keeps everything in place, at each of its fetches. -/
theorem step {s : Step} (h : Placed past r) (bounded : s.Bounded r.config.maxReadLength) :
    PlacedAlong past (r.events s) ∧ Placed (past ++ r.events s) (r.step s).2 := by
  cases hr : s.reading? r.config.maxReadLength with
  | some path =>
      rw [Reader.events_of_reading hr, Reader.step_of_reading hr]
      exact h.visit path bounded.offsets
  | none =>
      by_cases hf : s = .finish
      · subst hf
        exact ⟨trivial, h.finish⟩
      · rw [Reader.events_of_not_reading hr hf, List.append_nil]
        exact ⟨trivial, h.step_of_not_reading bounded hr hf⟩

/-- **A run.**  Bounded steps keep everything in place, at each of their fetches. -/
theorem run {steps : List Step} (h : Placed past r)
    (bounded : ∀ s ∈ steps, s.Bounded r.config.maxReadLength) :
    PlacedAlong past (r.trace steps) ∧ Placed (past ++ r.trace steps) (r.after steps) := by
  induction steps generalizing past r with
  | nil =>
      refine ⟨trivial, ?_⟩
      rw [Reader.trace, List.append_nil]
      exact h
  | cons s steps ih =>
      obtain ⟨first, rest⟩ := List.forall_mem_cons.mp bounded
      obtain ⟨along, placed⟩ := h.step first
      rw [← Reader.config_step r s] at rest
      obtain ⟨along', placed'⟩ := ih placed rest
      rw [List.append_assoc] at placed'
      exact ⟨along.append along', placed'⟩

theorem inPlace (h : Placed past r) : r.InPlace past := by
  intro path handle held
  obtain ⟨v, shows, placed⟩ := h.handles path handle held
  refine ⟨v.contents, shows.goesOn.source, ?_⟩
  rw [shows.cursor]
  exact placed.place

end Placed

end

/-- **The cursor never wraps.**  Run any steps over files in memory that are shorter than
`2 ^ 63` bytes, from a reader without handles, with reads at words or from the cursor on.
At each fetch of the run every cursor is within the contents that its handle is open on,
or at an offset that a read through that handle named before.  If the fetch gives bytes,
the cursor goes to the sum of the place where the fetch started and its width: the sum is
within the contents, or the width is nothing, and as a sum of words it does not wrap.
And every cursor is in place after the run. -/
theorem Reader.cursor_never_wraps (m : MemoryStore) (config : ReaderConfig)
    (steps : List Step)
    (small : ∀ path bytes, m.files.get? path = some bytes → Bytes.Small bytes)
    (bounded : ∀ s ∈ steps, s.Bounded config.maxReadLength) :
    let fresh := Reader.new m config
    (∀ past r path g later, fresh.trace steps = past ++ .fetch r path g :: later →
      r.InPlace past ∧
      ∀ bytes after, r.fetch path g.offset g.width = (.ok bytes, after) →
        (∃ contents, after.OpenAt path contents (r.start path g + g.width) ∧
          (r.start path g + g.width ≤ contents.length ∨ g.width = 0)) ∧
        r.start path g + g.width < 0x10000000000000000 ∧
        (UInt64.ofNat (r.start path g) + UInt64.ofNat g.width).toNat
          = r.start path g + g.width) ∧
    (fresh.after steps).InPlace (fresh.trace steps) := by
  intro fresh
  have first : Placed [] fresh := ⟨small, fun _ _ here => nomatch here⟩
  obtain ⟨along, placed⟩ := first.run bounded
  refine ⟨fun past r path g later split => ?_, placed.inPlace⟩
  obtain ⟨there, word⟩ := along.fetch split
  refine ⟨there.inPlace, fun bytes after given => ?_⟩
  obtain ⟨contents, opened, inside, fits⟩ := there.sum word given
  refine ⟨⟨contents, opened, inside⟩, fits, ?_⟩
  rw [UInt64.toNat_add, UInt64.toNat_ofNat', UInt64.toNat_ofNat', ← Nat.add_mod]
  exact Nat.mod_eq_of_lt fits

/-- Nothing is read at the greatest word of a file of two bytes, and then a number from
there on, which fails.  The cursor stays at the greatest word. -/
theorem Reader.cursor_never_wraps_behind_end :
    let m := MemoryStore.ofFiles (PathMap.empty.insert "a" [0x48, 0x69])
    let steps : List Step := [.bytes "a" (some 0xffffffffffffffff) 0, .int "a" none]
    let fresh := Reader.new m {}
    (∀ path bytes, m.files.get? path = some bytes → Bytes.Small bytes) ∧
    (∀ s ∈ steps, s.Bounded 0x4000000) ∧
    (UInt64.ofNat (fresh.start "a" ⟨some 0xffffffffffffffff, 0⟩) + UInt64.ofNat 0).toNat
      = 0xffffffffffffffff ∧
    (fresh.after steps).InPlace (fresh.trace steps) ∧
    (fresh.after steps).cursor "a" = 0xffffffffffffffff := by
  intro m steps fresh
  have small : ∀ path bytes, m.files.get? path = some bytes → Bytes.Small bytes := by
    intro path bytes held
    have only : m.files.get? path = if path = "a" then some _ else none :=
      PathMap.get?_insert .empty "a" path [0x48, 0x69]
    rw [only] at held
    split at held
    · cases held
      decide
    · cases held
  have first : Step.Bounded 0x4000000 (.bytes "a" (some 0xffffffffffffffff) 0) := by
    refine ⟨nofun, fun g here offset named => ?_⟩
    cases List.mem_singleton.mp here
    cases named
    decide
  have second : Step.Bounded 0x4000000 (.int "a" none) := by
    refine ⟨nofun, fun g here offset named => ?_⟩
    cases List.mem_singleton.mp here
    cases named
  have bounded : ∀ s ∈ steps, s.Bounded 0x4000000 := by
    simp only [steps, List.forall_mem_cons, List.not_mem_nil, false_implies, implies_true,
      and_true]
    exact ⟨first, second⟩
  obtain ⟨fetches, last⟩ := cursor_never_wraps m {} steps small bounded
  obtain ⟨_, sums⟩ := fetches [] fresh "a" ⟨some 0xffffffffffffffff, 0⟩ _ rfl
  let files : PathMap (List UInt8) := PathMap.empty.insert "a" [0x48, 0x69]
  have opened : View.found? (files.get? "a") none = some (.opened [0x48, 0x69]) := rfl
  have nothing : (fresh.fetch "a" (some 0xffffffffffffffff) 0).1 = .ok [] :=
    ((presents_new files {}).fetch_found opened ⟨some 0xffffffffffffffff, 0⟩).1
  have left : View.found? (contentsAfter files "a" steps.reverse)
      (viewAfter files 0x4000000 "a" steps.reverse)
        = some ⟨[0x48, 0x69], 0xffffffffffffffff⟩ := rfl
  have there : (fresh.after steps).cursor "a" = 0xffffffffffffffff :=
    (presents_after files {} steps.reverse).cursor_of_found? left
  obtain ⟨_, _, unwrapped⟩ := sums [] _ (Prod.ext nothing rfl)
  exact ⟨small, bounded, unwrapped, last, there⟩

end ScanFilter
