import Mathlib.Data.List.Forall2
import ScanFilter.Proofs.Outcome
import ScanFilter.Proofs.Storage.Observation
import ScanFilter.Proofs.Storage.Omission
import ScanFilter.Proofs.Storage.PlainNames
/-!
# Files in a directory and files in memory

A reader over a directory that holds some files and a reader over the same files in memory
show the same views of the same paths as long as the files are only read.  So a run of
reads under plain names gives the same values or errors that are alike, and the same paths
have handles.  This asks for room below the offsets that a disk refuses: a read of a disk
asks for a buffer full even at the end of a file, and is refused if that reaches too far,
while in memory it just finds the end.

* `PresentsOnDisk.fetch_found`, `PresentsOnDisk.fetch_missing` — a read of a directory;
* `Beside.fetch`, `Beside.step` — both readers take the same read, and the same step;
* `run_interchangeable` — what both show of a run;
* `run_differs_near_limit` — a read next to the offsets that the disk refuses.
-/

namespace ScanFilter

/-- Whether two errors tell their callers the same: they are of one variant, with one path
and with causes of one kind. -/
inductive StorageError.Alike : StorageError → StorageError → Prop
  | ioFailure {path : String} {cause cause' : IoError} (kind : cause.kind = cause'.kind) :
      Alike (.ioFailure path cause) (.ioFailure path cause')
  | readTooLarge (path : String) (requested limit : Nat) :
      Alike (.readTooLarge path requested limit) (.readTooLarge path requested limit)

/-- Whether two outcomes are the same, or reads that failed with errors alike. -/
inductive Outcome.Alike : Outcome → Outcome → Prop
  | same (outcome : Outcome) : Alike outcome outcome
  | failed {e e' : StorageError} (h : e.Alike e') :
      Alike (.failed (.storage e)) (.failed (.storage e'))

theorem StorageError.alike_refl (e : StorageError) : e.Alike e := by
  cases e with
  | ioFailure path cause => exact .ioFailure rfl
  | readTooLarge path requested limit => exact .readTooLarge ..

/-- Reads that find the same, or fail alike, have outcomes alike. -/
theorem Outcome.alike_ofRead {α : Type} {ok : α → Outcome} {x y : Except StorageError α}
    (h : Outcome.Related StorageError.Alike Eq x y) : (ofRead ok x).Alike (ofRead ok y) := by
  rcases h with same | alike
  · subst same
    exact .same _
  · exact .failed alike

/-- Whether a span goes no further than some reach, from an offset where that stays below
what a disk refuses. -/
structure Span.Short (g : Span) (reach : Nat) : Prop where
  width : g.width ≤ reach
  offset : ∀ offset, g.offset = some offset → offset + reach < 0x8000000000000000

namespace View

/-- Whether reads that go no further than some reach stay below what a disk refuses, from
the cursor of a view and from the end of its contents. -/
structure Near (v : View) (reach : Nat) : Prop where
  cursor : v.cursor + reach < 0x8000000000000000
  last : v.contents.length + reach < 0x8000000000000000

variable {v : View} {g : Span} {reach : Nat}

theorem Near.start (h : v.Near reach) (hg : g.Short reach) :
    v.start g + reach < 0x8000000000000000 := by
  unfold View.start
  rcases offset : g.offset with _ | o
  · exact h.cursor
  · exact hg.offset o offset

/-- A disk serves a short span. -/
theorem Near.served (h : v.Near reach) (hg : g.Short reach) {capacity : Nat}
    (buffer : capacity ≤ reach) : v.Served capacity g := by
  have first := h.start hg
  have last := h.last
  have width := hg.width
  exact .inr ⟨by omega, by omega, by omega⟩

/-- A read of a short span leaves the cursor where it started or in the contents. -/
theorem Near.advance (h : v.Near reach) (hg : g.Short reach) : (v.advance g).Near reach := by
  have first := h.start hg
  have last := h.last
  refine ⟨?_, last⟩
  unfold View.advance
  by_cases covered : v.Covers g
  · rw [if_pos covered]
    rcases covered with none | inside
    · simp only [none]
      exact first
    · simp only
      omega
  · rw [if_neg covered]
    exact first

end View

/-- Whether a reader is over a directory and its handles have some views. -/
structure PresentsOnDisk (r : Reader Directory) (d : Directory)
    (views : String → Option View) : Prop where
  store : r.store = d
  handles : ∀ path, Option.Rel (Handle.ShowsOnDisk d.held) (r.handle? path) (views path)

namespace PresentsOnDisk

variable {r : Reader Directory} {d : Directory} {contents : Option (List UInt8)}
  {views : String → Option View} {path : String} {view : View}

/-- After a handle with a view was put under a path, the path has the view. -/
theorem put (h : PresentsOnDisk r d views) {handle : Handle}
    (shows : handle.ShowsOnDisk d.held view) (path : String) :
    PresentsOnDisk (r.put path handle) d (Function.update views path (some view)) :=
  ⟨h.store, Reader.rel_put h.handles shows path⟩

/-- Where there is a view or a file, a handle is acquired that has the view. -/
theorem acquire_found (h : PresentsOnDisk r d views) (leads : d.Leads path contents)
    (hf : View.found? contents (views path) = some view) :
    ∃ handle after, r.acquire path = (.ok handle, after) ∧
      handle.ShowsOnDisk d.held view ∧ after.config = r.config ∧
      PresentsOnDisk after d (Function.update views path (some view)) := by
  have shown := h.handles path
  rw [Reader.acquire_eq]
  rcases now : views path with _ | v
  · rw [now] at hf shown
    obtain ⟨file, rfl, rfl⟩ := Option.map_eq_some_iff.mp hf
    obtain ⟨number, opened, stored⟩ := leads
    have held : d.held number = file := Directory.held_of_getElem? stored
    have opens : FileStore.openFile r.store path = (.ok (.disk number), r.store) := by
      rw [h.store]
      exact congrArg (·, d) opened
    generalize r.handle? path = handle at shown ⊢
    rcases shown
    simp only [opens]
    have shows := Handle.showsOnDisk_ofSource d.held number
    rw [held] at shows
    exact ⟨_, _, rfl, shows, rfl, h.put shows path⟩
  · rw [now] at hf shown
    cases hf
    generalize r.handle? path = handle at shown ⊢
    cases shown with
    | some shows =>
        refine ⟨_, r, rfl, shows, rfl, ?_⟩
        rw [← now, Function.update_eq_self]
        exact h

/-- Where there is a view or a file, a read gives its span of the contents and moves the
cursor of the path, if the disk serves the span. -/
theorem fetch_found (h : PresentsOnDisk r d views) (leads : d.Leads path contents)
    (hf : View.found? contents (views path) = some view) {g : Span}
    (seekable : ∀ offset, g.offset = some offset → offset < 0x8000000000000000)
    (served : view.Served r.config.bufferCapacity g) :
    (r.fetch path g.offset g.width).1 = (view.slice g).mapError (.ioFailure path) ∧
    PresentsOnDisk (r.fetch path g.offset g.width).2 d
      (Function.update views path (some (view.advance g))) := by
  obtain ⟨handle, after, acquired, shows, setup, presents⟩ := h.acquire_found leads hf
  rw [← setup] at served
  obtain ⟨given, moved⟩ := shows.read seekable served
  have next := presents.put moved path
  rw [Function.update_idem] at next
  obtain rfl := presents.store
  unfold Reader.fetch
  rw [acquired]
  exact ⟨congrArg (Except.mapError (StorageError.ioFailure path)) given, next⟩

/-- Where there is neither, a read fails and changes no view. -/
theorem fetch_missing (h : PresentsOnDisk r d views) (leads : d.Leads path none)
    (unread : views path = none) (g : Span) :
    (r.fetch path g.offset g.width).1 = .error (.ioFailure path .missing) ∧
    PresentsOnDisk (r.fetch path g.offset g.width).2 d views := by
  have shown := h.handles path
  have opens : FileStore.openFile r.store path = (.error .missing, r.store) := by
    rw [h.store]
    exact congrArg (·, d) leads
  have acquired : r.acquire path = (.error .missing, r) := by
    rw [Reader.acquire_eq]
    rw [unread] at shown
    generalize r.handle? path = handle at shown ⊢
    rcases shown
    simp only [opens]
  unfold Reader.fetch
  rw [acquired]
  exact ⟨rfl, h⟩

end PresentsOnDisk

/-- A step that reads a file under a plain name, or finishes.  A read that is not refused
for its length is short. -/
inductive Reading (limit reach : Nat) : Step → Prop
  | finish : Reading limit reach .finish
  | oversized {path : String} {form : ReadForm} (plain : PlainName path)
      (offset : Option Nat) (h : form.Oversized limit) :
      Reading limit reach (form.step path offset)
  | short {path : String} {form : ReadForm} {offset : Option Nat} (plain : PlainName path)
      (h : Span.Short ⟨offset, form.width⟩ reach) : Reading limit reach (form.step path offset)

/-- Whether a directory holds some files, which end far enough below what a disk refuses
for reads of some reach. -/
structure HoldsNear (d : Directory) (files : String → Option (List UInt8)) (reach : Nat) :
    Prop where
  holds : d.Holds files
  last : ∀ path bytes, files path = some bytes → bytes.length + reach < 0x8000000000000000

/-- Whether a reader over a directory and a reader over some files in memory have handles
of the same views, none of them too far for reads of some reach. -/
structure Beside (d : Directory) (files : String → Option (List UInt8)) (reach : Nat)
    (views : String → Option View) (r : Reader Directory) (t : Reader MemoryStore) : Prop where
  onDisk : PresentsOnDisk r d views
  inMemory : Presents t files views
  near : ∀ path view, views path = some view → view.Near reach

/-- The reader after a read within the limit is that after its span. -/
theorem Reader.step_of_allowed {σ : Type} [FileStore σ] {r : Reader σ} {form : ReadForm}
    (h : ¬ form.Oversized r.config.maxReadLength) (path : String) (offset : Option Nat) :
    (r.step (form.step path offset)).2 = (r.fetch path offset form.width).2 := by
  have reads : (form.step path offset).reading? r.config.maxReadLength = some path := by
    unfold Step.reading?
    rw [spans_of_allowed h]
    cases form <;> rfl
  rw [Reader.step_of_reading reads, spans_of_allowed h, Reader.visit_single]

namespace Beside

variable {d : Directory} {files : String → Option (List UInt8)} {reach : Nat}
  {views : String → Option View} {r : Reader Directory} {t : Reader MemoryStore}
  {path : String} {g : Span} {s : Step}

/-- The view that a read finds is not too far. -/
theorem near_found (h : Beside d files reach views r t) (held : HoldsNear d files reach)
    {view : View} (hf : View.found? (files path) (views path) = some view) :
    view.Near reach := by
  rcases now : views path with _ | v
  · rw [now] at hf
    obtain ⟨bytes, file, rfl⟩ := Option.map_eq_some_iff.mp hf
    have last := held.last path bytes file
    exact ⟨by simp only [View.opened]; omega, last⟩
  · rw [now] at hf
    cases hf
    exact h.near path view now

/-- A short read finds the same on both sides, or fails alike. -/
theorem fetch (h : Beside d files reach views r t) (held : HoldsNear d files reach)
    (buffer : r.config.bufferCapacity ≤ reach) (plain : PlainName path)
    (hg : g.Short reach) :
    Outcome.Related StorageError.Alike Eq (r.fetch path g.offset g.width).1
      (t.fetch path g.offset g.width).1 ∧
    ∃ next, Beside d files reach next (r.fetch path g.offset g.width).2
      (t.fetch path g.offset g.width).2 := by
  have leads := held.holds path plain
  rcases found : View.found? (files path) (views path) with _ | view
  -- Without a view and a file each side misses the file in its own words, of one kind.
  · obtain ⟨unread, missing⟩ := Option.or_eq_none_iff.mp found
    rw [Option.map_eq_none_iff.mp missing] at leads
    obtain ⟨failed, left⟩ := h.onDisk.fetch_missing leads unread g
    obtain ⟨failed', right⟩ := h.inMemory.fetch_missing found g
    rw [failed, failed']
    exact ⟨.error (.ioFailure rfl), views, left, right, h.near⟩
  · have near := h.near_found held found
    have seekable : ∀ o, g.offset = some o → o < 0x8000000000000000 := by
      intro o offset
      have := hg.offset o offset
      omega
    obtain ⟨given, left⟩ := h.onDisk.fetch_found leads found seekable (near.served hg buffer)
    obtain ⟨given', right⟩ := h.inMemory.fetch_found found g
    rw [given, given']
    refine ⟨.refl StorageError.alike_refl (fun _ => rfl) _, _, left, right, ?_⟩
    intro q v shown
    by_cases same : q = path
    · subst same
      rw [Function.update_self] at shown
      cases shown
      exact near.advance hg
    · rw [Function.update_of_ne same] at shown
      exact h.near q v shown

/-- A read over the limit is refused on both sides. -/
theorem step_oversized (h : Beside d files reach views r t) (setup : r.config = t.config)
    {form : ReadForm} (oversized : form.Oversized r.config.maxReadLength)
    (path : String) (offset : Option Nat) :
    (r.step (form.step path offset)).1.Alike (t.step (form.step path offset)).1 ∧
    ∃ next, Beside d files reach next (r.step (form.step path offset)).2
      (t.step (form.step path offset)).2 := by
  rw [step_of_oversized oversized, step_of_oversized (setup ▸ oversized), setup]
  exact ⟨.same _, views, h⟩

/-- A step that reads or finishes has outcomes alike on both sides. -/
theorem step (h : Beside d files reach views r t) (held : HoldsNear d files reach)
    (setup : r.config = t.config) (buffer : r.config.bufferCapacity ≤ reach)
    (hs : Reading r.config.maxReadLength reach s) :
    (r.step s).1.Alike (t.step s).1 ∧
    ∃ next, Beside d files reach next (r.step s).2 (t.step s).2 := by
  cases hs with
  | finish =>
      refine ⟨.same .done, fun _ => none, ⟨h.onDisk.store, fun _ => .none⟩,
        ⟨h.inMemory.files, h.inMemory.unrefused, fun _ => .none⟩, ?_⟩
      intro path view shown
      cases shown
  | @oversized path form plain offset oversized =>
      exact h.step_oversized setup oversized path offset
  | @short path form offset plain short =>
      by_cases oversized : form.Oversized r.config.maxReadLength
      · exact h.step_oversized setup oversized path offset
      · obtain ⟨alike, next⟩ := h.fetch held buffer plain short
        rw [outcome_of_allowed oversized, outcome_of_allowed (setup ▸ oversized),
          Reader.step_of_allowed oversized, Reader.step_of_allowed (setup ▸ oversized)]
        exact ⟨Outcome.alike_ofRead alike, next⟩

/-- The same paths have handles on both sides. -/
theorem isCached (h : Beside d files reach views r t) (path : String) :
    r.isCached path = t.isCached path :=
  (r.isCached_eq path).trans
    ((isSome_of_rel (h.onDisk.handles path)).trans (h.inMemory.isCached path).symm)

end Beside

/-- What a step showed on both sides: outcomes alike, and then the same number of handles
for the same paths. -/
structure Alongside (x : Outcome × Reader Directory) (y : Outcome × Reader MemoryStore) :
    Prop where
  outcome : x.1.Alike y.1
  handleCount : x.2.handleCount = y.2.handleCount
  isCached : ∀ path, x.2.isCached path = y.2.isCached path

/-- A run of steps that read or finish shows the same on both sides. -/
theorem Beside.run {d : Directory} {files : String → Option (List UInt8)} {reach : Nat}
    {views : String → Option View} {r : Reader Directory} {t : Reader MemoryStore}
    (h : Beside d files reach views r t) (held : HoldsNear d files reach)
    (setup : r.config = t.config) (buffer : r.config.bufferCapacity ≤ reach)
    {steps : List Step} (reads : ∀ s ∈ steps, Reading r.config.maxReadLength reach s) :
    List.Forall₂ Alongside (r.run steps) (t.run steps) := by
  -- By induction on the steps, with other readers and other views after each of them.
  induction steps generalizing r t views with
  | nil => exact .nil
  | cons s steps ih =>
      obtain ⟨alike, next, beside⟩ := h.step held setup buffer (reads s List.mem_cons_self)
      have config := Reader.config_step r s
      have config' := Reader.config_step t s
      have cached := beside.isCached
      refine .cons ⟨alike, PathMap.size_eq_of_contains cached, cached⟩ ?_
      refine ih beside (config.trans (setup.trans config'.symm)) ?_ fun s' hs' => ?_
      · rw [config]
        exact buffer
      · rw [config]
        exact reads s' (List.mem_cons_of_mem s hs')

/-- **Files in a directory and files in memory.**  Take any files, a directory that holds
them under plain names, and any set-up.  Let no file end, and no read start at an offset,
so near to what a disk refuses that a buffer full or the longest read from there on comes
to it.  Then a run of reads under plain names, at offsets or at the cursor, and of steps
that finish gives the same values over the directory and over the files in memory, or
errors of one variant with one path and one kind, and after every step the same number of
handles, for the same paths. -/
theorem run_interchangeable {d : Directory} {files : PathMap (List UInt8)} {reach : Nat}
    (held : HoldsNear d files.get? reach) (config : ReaderConfig)
    (buffer : config.bufferCapacity ≤ reach) {steps : List Step}
    (reads : ∀ s ∈ steps, Reading config.maxReadLength reach s) :
    List.Forall₂ Alongside ((Reader.new d config).run steps)
      ((Reader.new (MemoryStore.ofFiles files) config).run steps) := by
  have new : Beside d files.get? reach (fun _ => none) (Reader.new d config)
      (Reader.new (MemoryStore.ofFiles files) config) := by
    refine ⟨⟨rfl, fun _ => .none⟩, Reader.presents_new files config, ?_⟩
    intro path view shown
    cases shown
  exact new.run held rfl buffer reads

/-- A single file. -/
def greeting : PathMap (List UInt8) := .ofList [("a", [0x48, 0x65, 0x6c, 0x6c, 0x6f])]

theorem holds_greeting : (Directory.ofFiles greeting).Holds greeting.get? :=
  Directory.holds_ofFiles (by decide)

/-- Reads of a file, one of them past its end, and of no file. -/
theorem run_interchangeable_greeting :
    List.Forall₂ Alongside
      ((Reader.new (Directory.ofFiles greeting) {}).run
        [.int "a" (some 1), .bytes "a" none 9, .finish, .long "b" none])
      ((Reader.new (MemoryStore.ofFiles greeting) {}).run
        [.int "a" (some 1), .bytes "a" none 9, .finish, .long "b" none]) := by
  have held : HoldsNear (Directory.ofFiles greeting) greeting.get? 8192 := by
    refine ⟨holds_greeting, fun path bytes found => ?_⟩
    have only : greeting.get? path = if path = "a" then some _ else none :=
      PathMap.get?_insert .empty "a" path [0x48, 0x65, 0x6c, 0x6c, 0x6f]
    rw [only] at found
    split at found
    · cases found
      decide
    · cases found
  have plain : PlainName "a" := by decide
  have first : Reading 67108864 8192 (ReadForm.int.step "a" (some 1)) := by
    refine .short plain ⟨by decide, ?_⟩
    rintro o ⟨⟩
    decide
  have second : Reading 67108864 8192 ((ReadForm.bytes 9).step "a" none) :=
    .short plain ⟨by decide, nofun⟩
  have third : Reading 67108864 8192 (ReadForm.long.step "b" none) :=
    .short (by decide) ⟨by decide, nofun⟩
  refine run_interchangeable held {} (by decide) fun s hs => ?_
  simp only [List.mem_cons, List.not_mem_nil, or_false] at hs
  rcases hs with rfl | rfl | rfl | rfl
  · exact first
  · exact second
  · exact .finish
  · exact third

/-- **Near the offsets that a disk refuses.**  An integer that starts below them, but not
by a buffer full, is missing from memory because the file ends, and from disk because the
disk refuses the offset. -/
theorem run_differs_near_limit :
    (Directory.ofFiles greeting).Holds greeting.get? ∧ PlainName "a" ∧
      0x7ffffffffffffff8 < 0x8000000000000000 ∧
      ¬ List.Forall₂ Alongside
        ((Reader.new (Directory.ofFiles greeting) {}).run [.int "a" (some 0x7ffffffffffffff8)])
        ((Reader.new (MemoryStore.ofFiles greeting) {}).run
          [.int "a" (some 0x7ffffffffffffff8)]) := by
  have plain : PlainName "a" := by decide
  refine ⟨holds_greeting, plain, by decide, ?_⟩
  intro same
  rcases same with _ | ⟨first, _⟩
  have file : OnDisk (Directory.ofFiles greeting) "a" _ := holds_greeting.onDisk plain rfl
  have refused := Reader.fetch_new file {} (some 0x7ffffffffffffff8) 4
  simp only at refused
  rw [if_neg (by decide)] at refused
  obtain ⟨cause, missed, far⟩ := refused
  rw [far (by decide)] at missed
  have left : ((Reader.new (Directory.ofFiles greeting) {}).step
      (.int "a" (some 0x7ffffffffffffff8))).1
      = .failed (.storage (.ioFailure "a" .seekRefused)) :=
    (outcome_of_allowed id).trans (congrArg (Outcome.ofRead ReadForm.int.decode) missed)
  have found : View.found? (greeting.get? "a") none
      = some (.opened [0x48, 0x65, 0x6c, 0x6c, 0x6f]) := rfl
  have ended := ((Reader.presents_new greeting {}).fetch_found found
    ⟨some 0x7ffffffffffffff8, 4⟩).1
  rw [View.slice_of_not_covers (by decide)] at ended
  have right : ((Reader.new (MemoryStore.ofFiles greeting) {}).step
      (.int "a" (some 0x7ffffffffffffff8))).1
      = .failed (.storage (.ioFailure "a" .endOfFile)) :=
    (outcome_of_allowed id).trans (congrArg (Outcome.ofRead ReadForm.int.decode) ended)
  have alike := first.outcome
  rw [left, right] at alike
  rcases alike with _ | ⟨⟨kind⟩⟩
  exact absurd kind (by decide)

end ScanFilter
