import Mathlib.Logic.Function.Basic
import ScanFilter.Proofs.Storage.InStep
/-!
# Handles as their reads see them

Of a handle on a file in memory a read sees the contents of the file when it was
opened and the cursor, which is the recorded position.  The place of its stream and the
bytes that are ahead cannot be told from these two, since the stream is in step.  A
reader **presents** contents and views of paths when its store has these contents and
its handles show these views.  What a step does to the contents and the view of a path
needs nothing but these two, whatever happens to other paths and whatever the capacity
of the buffer.

* `Handle.Shows.read` — a read gives its span of the contents and moves the cursor;
* `Presents.fetch_found`, `Presents.fetch_missing` — a read through a reader, where
  there is a view or a file, and where there is none;
* `Presents.step` — the contents and the views after any step.
-/

namespace ScanFilter

/-- What reads see of a handle: the contents of the file when it was opened, and where
the next read without an offset starts. -/
structure View where
  contents : List UInt8
  cursor : Nat

namespace View

/-- The view of a file that was just opened. -/
def opened (contents : List UInt8) : View := ⟨contents, 0⟩

/-- Where a span starts: at its offset, or else at the cursor. -/
def start (v : View) (g : Span) : Nat := g.offset.getD v.cursor

/-- Whether the contents have all bytes of a span. -/
def Covers (v : View) (g : Span) : Prop :=
  g.width = 0 ∨ v.start g + g.width ≤ v.contents.length

instance (v : View) (g : Span) : Decidable (v.Covers g) :=
  inferInstanceAs (Decidable (_ ∨ _))

/-- The bytes of a span. -/
def slice (v : View) (g : Span) : Except IoError (List UInt8) :=
  Source.slice v.contents (v.start g) g.width

/-- The view after a read: the cursor is at the end of a span that was read, and at
the start of one that was not. -/
def advance (v : View) (g : Span) : View :=
  ⟨v.contents, if v.Covers g then v.start g + g.width else v.start g⟩

/-- The view after spans were read in turn, up to the first that is not covered. -/
def advanceAll (v : View) : List Span → View
  | [] => v
  | g :: gs => if v.Covers g then (v.advance g).advanceAll gs else v.advance g

/-- The view that a read of a path finds: that of its handle, or else that of its file,
which is opened now. -/
def found? (contents : Option (List UInt8)) (view : Option View) : Option View :=
  view.or (contents.map opened)

theorem advanceAll_single (v : View) (g : Span) : v.advanceAll [g] = v.advance g :=
  ite_self _

theorem slice_of_covers {v : View} {g : Span} (h : v.Covers g) :
    v.slice g = .ok ((v.contents.drop (v.start g)).take g.width) :=
  (Source.slice_eq ..).trans (if_pos h)

theorem slice_of_not_covers {v : View} {g : Span} (h : ¬ v.Covers g) :
    v.slice g = .error .endOfFile :=
  (Source.slice_eq ..).trans (if_neg h)

end View

namespace Step

/-- The contents of a path after a step, from those before it. -/
def nextContents (path : String) (now : Option (List UInt8)) : Step → Option (List UInt8)
  | .insert q contents => if path = q then some contents else now
  | .remove q => if path = q then none else now
  | _ => now

/-- The view of a path after a step, from its contents and its view before it: a step
that reads the path opens its file unless there is a handle, and moves the cursor. -/
def nextView (limit : Nat) (path : String) (contents : Option (List UInt8))
    (now : Option View) : Step → Option View
  | .finish => none
  | s =>
    if s.reading? limit = some path then
      (View.found? contents now).map (·.advanceAll (s.spans limit))
    else now

end Step

theorem Step.nextView_of_ne_finish {s : Step} (hf : s ≠ .finish) (limit : Nat)
    (path : String) (contents : Option (List UInt8)) (now : Option View) :
    s.nextView limit path contents now
      = if s.reading? limit = some path then
          (View.found? contents now).map (·.advanceAll (s.spans limit))
        else now := by
  cases s with
  | finish => exact absurd rfl hf
  | _ => rfl

/-- The files in memory after a step wrote to them. -/
theorem MemoryStore.files_write (m : MemoryStore) (s : Step) (path : String) :
    (s.write m).files.get? path = s.nextContents path (m.files.get? path) := by
  cases s with
  | insert q bytes => exact PathMap.get?_insert ..
  | remove q => exact PathMap.get?_erase ..
  | _ => rfl

/-- Related options are of something alike. -/
theorem isSome_of_rel {α β : Type} {R : α → β → Prop} {a : Option α} {b : Option β}
    (h : Option.Rel R a b) : a.isSome = b.isSome := by
  cases h <;> rfl

/-- Handles that are related to a function path by path stay so when one path gets related
values on both sides. -/
theorem Reader.rel_put {σ β : Type} {R : Handle → β → Prop} {r : Reader σ}
    {f : String → Option β} (h : ∀ q, Option.Rel R (r.handle? q) (f q)) {handle : Handle}
    {b : β} (related : R handle b) (path q : String) :
    Option.Rel R ((r.put path handle).handle? q) (Function.update f path (some b) q) := by
  rw [handle?_put]
  by_cases same : q = path
  · rw [if_pos same, same, Function.update_self]
    exact .some related
  · rw [if_neg same, Function.update_of_ne same]
    exact h q

/-- Whether a handle on a file in memory has a view: its stream goes on with the contents
from the position on, and that is the cursor. -/
structure Handle.Shows (h : Handle) (v : View) : Prop where
  cursor : h.position = v.cursor
  goesOn : h.stream.On v.contents h.position

theorem Handle.shows_ofSource (contents : List UInt8) :
    (Handle.ofSource (.memory contents)).Shows (.opened contents) :=
  ⟨rfl, Stream.on_of_empty contents 0⟩

/-- A read begins at the start of its span, with a stream that goes on from there. -/
theorem Handle.Shows.moveTo {h : Handle} {v : View} (hs : h.Shows v) (g : Span) :
    ∃ s, h.moveTo g.offset = .ok (s, v.start g) ∧ s.On v.contents (v.start g) := by
  unfold Handle.moveTo View.start
  cases g.offset with
  | none =>
      have goesOn := hs.goesOn
      rw [hs.cursor] at goesOn
      refine ⟨h.stream, ?_, goesOn⟩
      simp only [hs.cursor]
      rfl
  | some offset =>
      refine ⟨⟨.memory v.contents, offset, []⟩, ?_, Stream.on_of_empty ..⟩
      simp only [Stream.seek, hs.goesOn.source]
      rfl

/-- A read gives its span of the contents, and the handle has the view after it. -/
theorem Handle.Shows.read {h : Handle} {v : View} (hs : h.Shows v)
    (held : Nat → List UInt8) (capacity : Nat) (g : Span) :
    (h.read held capacity g.offset g.width).1 = v.slice g ∧
    (h.read held capacity g.offset g.width).2.Shows (v.advance g) := by
  obtain ⟨s, moved, goesOn⟩ := hs.moveTo g
  obtain ⟨given, next⟩ := goesOn.takeExact held capacity g.width
  by_cases covered : v.Covers g
  · have found := given.trans (View.slice_of_covers covered)
    rw [read_ok moved (Prod.ext found rfl), View.slice_of_covers covered]
    refine ⟨rfl, ?_, next _ found⟩
    rw [View.advance, if_pos covered]
  · have missed := given.trans (View.slice_of_not_covers covered)
    have inStep : h.InStep := hs.goesOn.here
    rw [inStep.read_error moved missed, View.slice_of_not_covers covered, hs.goesOn.source]
    refine ⟨rfl, ?_, Stream.on_of_empty ..⟩
    rw [View.advance, if_neg covered]

/-- Whether the store of a reader refuses nothing and has some contents, and the
handles of the reader have some views. -/
structure Presents (r : Reader MemoryStore) (contents : String → Option (List UInt8))
    (views : String → Option View) : Prop where
  files : ∀ path, r.store.files.get? path = contents path
  unrefused : ∀ path, r.store.refusals.get? path = none
  handles : ∀ path, Option.Rel Handle.Shows (r.handle? path) (views path)

namespace Presents

variable {r : Reader MemoryStore} {contents : String → Option (List UInt8)}
  {views : String → Option View} {path : String} {view : View}

/-- The paths with a view are those that have a handle. -/
theorem isCached (h : Presents r contents views) (path : String) :
    r.isCached path = (views path).isSome :=
  (r.isCached_eq path).trans (isSome_of_rel (h.handles path))

/-- Where there is a view or a file, a handle is acquired that has the view. -/
theorem acquire_found (h : Presents r contents views)
    (hf : View.found? (contents path) (views path) = some view) :
    ∃ handle after, r.acquire path = (.ok handle, after) ∧ handle.Shows view ∧
      Presents after contents (Function.update views path (some view)) := by
  have handle := h.handles path
  rw [Reader.acquire_eq]
  cases hv : views path with
  | some now =>
      rw [hv] at hf handle
      cases hf
      cases hg : r.handle? path with
      | none =>
          rw [hg] at handle
          cases handle
      | some g =>
          rw [hg] at handle
          cases handle with
          | some shows =>
              refine ⟨g, r, rfl, shows, ?_⟩
              rw [← hv, Function.update_eq_self]
              exact h
  | none =>
      rw [hv] at hf handle
      obtain ⟨file, hc, rfl⟩ := Option.map_eq_some_iff.mp hf
      cases hg : r.handle? path with
      | some g =>
          rw [hg] at handle
          cases handle
      | none =>
          have opened := MemoryStore.openFile_found (h.unrefused path) ((h.files path).trans hc)
          rw [show FileStore.openFile r.store path = _ from opened]
          have shows := Handle.shows_ofSource file
          exact ⟨_, _, rfl, shows, h.files, h.unrefused,
            Reader.rel_put (r := { r with store := _ }) h.handles shows path⟩

/-- Where there is a view or a file, a read gives its span of the contents and moves
the cursor of the path. -/
theorem fetch_found (h : Presents r contents views)
    (hf : View.found? (contents path) (views path) = some view) (g : Span) :
    (r.fetch path g.offset g.width).1 = (view.slice g).mapError (.ioFailure path) ∧
    Presents (r.fetch path g.offset g.width).2 contents
      (Function.update views path (some (view.advance g))) := by
  obtain ⟨handle, after, acquired, shows, presents⟩ := h.acquire_found hf
  obtain ⟨given, moved⟩ := shows.read (FileStore.held after.store) after.config.bufferCapacity g
  have handles := Reader.rel_put presents.handles moved path
  rw [Function.update_idem] at handles
  unfold Reader.fetch
  rw [acquired]
  exact ⟨congrArg (Except.mapError (StorageError.ioFailure path)) given, presents.files,
    presents.unrefused, handles⟩

/-- Where there is neither, a read fails and changes no view. -/
theorem fetch_missing (h : Presents r contents views)
    (hf : View.found? (contents path) (views path) = none) (g : Span) :
    (r.fetch path g.offset g.width).1 = .error (.ioFailure path (.unknownFile path)) ∧
    Presents (r.fetch path g.offset g.width).2 contents views := by
  obtain ⟨hv, hc⟩ := Option.or_eq_none_iff.mp hf
  have handle := h.handles path
  have missing := (h.files path).trans (Option.map_eq_none_iff.mp hc)
  have acquired : r.acquire path = (.error (.unknownFile path),
      { r with store := { r.store with openCount := r.store.openCount + 1 } }) := by
    rw [Reader.acquire_eq]
    cases hg : r.handle? path with
    | some g =>
        rw [hg, hv] at handle
        cases handle
    | none =>
        have refused := MemoryStore.openFile_missing (h.unrefused path) missing
        rw [show FileStore.openFile r.store path = _ from refused]
  unfold Reader.fetch
  rw [acquired]
  exact ⟨rfl, h.files, h.unrefused, h.handles⟩

/-- Where there is a view or a file, reading spans in turn moves the cursor of the path
past them, up to the first that is not covered. -/
theorem visit_found (h : Presents r contents views)
    (hf : View.found? (contents path) (views path) = some view) (g : Span)
    (gs : List Span) :
    Presents (r.visit path (g :: gs)) contents
      (Function.update views path (some (view.advanceAll (g :: gs)))) := by
  -- By induction on the spans after the first: each finds the view that the one before
  -- it left, whether or not the first had to open the file.
  induction gs generalizing r views view g with
  | nil =>
      obtain ⟨_, presents⟩ := h.fetch_found hf g
      rw [Reader.visit_single, View.advanceAll_single]
      exact presents
  | cons g' gs ih =>
      obtain ⟨given, presents⟩ := h.fetch_found hf g
      rw [Reader.visit, View.advanceAll]
      split
      · next e after hr =>
          have short : ¬ view.Covers g := by
            intro covered
            rw [hr, View.slice_of_covers covered] at given
            cases given
          rw [hr] at presents
          rw [if_neg short]
          exact presents
      · next bytes after hr =>
          have covered : view.Covers g := by
            by_contra short
            rw [hr, View.slice_of_not_covers short] at given
            cases given
          rw [hr] at presents
          have here : View.found? (contents path)
              (Function.update views path (some (view.advance g)) path)
                = some (view.advance g) := by
            rw [Function.update_self]
            rfl
          have rest := ih presents here g'
          rw [Function.update_idem] at rest
          rw [if_pos covered]
          exact rest

/-- Where there is neither, reading spans changes no view. -/
theorem visit_missing (h : Presents r contents views)
    (hf : View.found? (contents path) (views path) = none) (gs : List Span) :
    Presents (r.visit path gs) contents views := by
  cases gs with
  | nil => exact h
  | cons g gs =>
      obtain ⟨failed, presents⟩ := h.fetch_missing hf g
      rw [Reader.visit]
      split
      · next e after hr =>
          rw [hr] at presents
          exact presents
      · next bytes after hr =>
          rw [hr] at failed
          cases failed

/-- After a step that reads a path the handle of the path has the view that reading
its spans leaves, and the other handles have the views from before. -/
theorem handles_of_reading (h : Presents r contents views) {s : Step} {read : String}
    (hr : s.reading? r.config.maxReadLength = some read) (path : String) :
    Option.Rel Handle.Shows ((r.step s).2.handle? path)
      (if read = path then
        (View.found? (contents path) (views path)).map
          (·.advanceAll (s.spans r.config.maxReadLength))
      else views path) := by
  obtain ⟨g, gs, hs⟩ := Step.spans_of_reading hr
  rw [Reader.step_of_reading hr, hs]
  cases hv : View.found? (contents read) (views read) with
  | none =>
      have same := (h.visit_missing hv (g :: gs)).handles path
      by_cases hp : read = path
      · subst hp
        rw [(Option.or_eq_none_iff.mp hv).1] at same
        rw [if_pos rfl, hv]
        exact same
      · rw [if_neg hp]
        exact same
  | some view =>
      have moved := (h.visit_found hv g gs).handles path
      by_cases hp : read = path
      · subst hp
        rw [Function.update_self] at moved
        rw [if_pos rfl, hv]
        exact moved
      · rw [Function.update_of_ne (Ne.symm hp)] at moved
        rw [if_neg hp]
        exact moved

/-- **One step.**  After a step a reader presents the contents and the views that the
step makes of those before it, path by path. -/
theorem step (h : Presents r contents views) (s : Step) :
    Presents (r.step s).2 (fun path => s.nextContents path (contents path))
      (fun path => s.nextView r.config.maxReadLength path (contents path) (views path)) := by
  refine ⟨fun path => ?_, fun path => ?_, fun path => ?_⟩
  · rw [Reader.store_step, MemoryStore.files_write, ← h.files path]
    cases r.asked? s with
    | none => rfl
    | some asked => rw [← (r.store.openFile_files asked).1]; rfl
  · rw [Reader.refusals_step]
    exact h.unrefused path
  · by_cases hf : s = .finish
    · subst hf
      exact .none
    rw [Step.nextView_of_ne_finish hf]
    cases hr : s.reading? r.config.maxReadLength with
    | none =>
        rw [Reader.step_of_not_reading hr hf, if_neg (Option.some_ne_none path).symm]
        exact h.handles path
    | some read =>
        simp only [Option.some.injEq]
        exact h.handles_of_reading hr path

end Presents

end ScanFilter
