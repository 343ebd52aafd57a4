import ScanFilter.Proofs.Storage.Omission
/-!
# Reads from the cursor on and reads at the cursor

A read from the cursor on takes bytes from wherever its stream is, those that are ahead
first; a read at an offset makes the stream go there, drops what is ahead, and asks the
file.  Streams are in step with the cursors, so where the offset is the cursor both find
the same bytes or fail alike, and both leave the cursor and the stream at the same place.
They may leave different bytes ahead, which nothing shows.  So a reader that took the one
read is the twin of the same reader that took the other, and no step tells them apart.

* `cursor_of_found?` — the cursor of a path is that of the view which a read finds;
* `fetch_at_cursor` — one span, from the cursor on and at the cursor;
* `twins_at_cursor` — steps that read such a span;
* `read_at_cursor` — reads of every form after any run, and what is shown after them.
-/

namespace ScanFilter

/-- The cursor of a path: that of its handle, or the start of the file where there is no
handle. -/
def Reader.cursor {σ : Type} (r : Reader σ) (path : String) : Nat :=
  match r.handle? path with
  | some h => h.position
  | none => 0

theorem View.slice_at_cursor (v : View) (width : Nat) :
    v.slice ⟨some v.cursor, width⟩ = v.slice ⟨none, width⟩ := rfl

theorem View.advance_at_cursor (v : View) (width : Nat) :
    v.advance ⟨some v.cursor, width⟩ = v.advance ⟨none, width⟩ := rfl

namespace Presents

variable {r : Reader MemoryStore} {contents : String → Option (List UInt8)}
  {views : String → Option View} {path : String} {view : View}

/-- The cursor of a path is that of the view which a read of the path finds. -/
theorem cursor_of_found? (h : Presents r contents views)
    (found : View.found? (contents path) (views path) = some view) :
    r.cursor path = view.cursor := by
  have handle := h.handles path
  unfold Reader.cursor
  generalize r.handle? path = held at handle ⊢
  cases hv : views path with
  | none =>
      rw [hv] at found handle
      obtain ⟨file, _, rfl⟩ := Option.map_eq_some_iff.mp found
      cases handle
      rfl
  | some now =>
      rw [hv] at found handle
      cases found
      cases handle with
      | some shows => exact shows.cursor

/-- A span from the cursor on and the span at the cursor are the same bytes, or fail for
the same reason, and they leave readers that agree on every path. -/
theorem fetch_at_cursor (h : Presents r contents views) (path : String) (width : Nat) :
    (r.fetch path none width).1 = (r.fetch path (some (r.cursor path)) width).1 ∧
    ∀ q, Reader.AgreeAt q (r.fetch path none width).2
      (r.fetch path (some (r.cursor path)) width).2 := by
  cases found : View.found? (contents path) (views path) with
  | none =>
      obtain ⟨failed, left⟩ := h.fetch_missing found ⟨none, width⟩
      obtain ⟨failed', right⟩ := h.fetch_missing found ⟨some (r.cursor path), width⟩
      exact ⟨failed.trans failed'.symm, fun q => ⟨_, _, _, _, left, right, rfl, rfl⟩⟩
  | some view =>
      obtain ⟨given, left⟩ := h.fetch_found found ⟨none, width⟩
      obtain ⟨given', right⟩ := h.fetch_found found ⟨some view.cursor, width⟩
      rw [view.slice_at_cursor] at given'
      rw [view.advance_at_cursor] at right
      rw [h.cursor_of_found? found]
      exact ⟨given.trans given'.symm, fun q => ⟨_, _, _, _, left, right, rfl, rfl⟩⟩

end Presents

namespace Reader

variable {r : Reader MemoryStore} {contents : String → Option (List UInt8)}
  {views : String → Option View} {path : String} {width : Nat} {s s' : Step}

/-- A step that reads one span visits it. -/
theorem step_of_span {g : Span} (spans : s.spans r.config.maxReadLength = [g])
    (names : s.path? = some path) :
    s.reading? r.config.maxReadLength = some path ∧
    (r.step s).2 = (r.fetch path g.offset g.width).2 := by
  have reading := Step.reading?_of_single spans names
  refine ⟨reading, ?_⟩
  rw [step_of_reading reading, spans, visit_single]

/-- Of two steps, one of which reads a span from the cursor on and the other one the span
at the cursor, each leaves a twin of what the other one leaves. -/
theorem twins_at_cursor (h : Presents r contents views)
    (refusals : r.store.refusals = .empty) (names : s.path? = some path)
    (names' : s'.path? = some path)
    (spans : s.spans r.config.maxReadLength = [⟨none, width⟩])
    (spans' : s'.spans r.config.maxReadLength = [⟨some (r.cursor path), width⟩]) :
    Twins 0 (r.step s).2 (r.step s').2 := by
  obtain ⟨reading, left⟩ := step_of_span spans names
  obtain ⟨reading', right⟩ := step_of_span spans' names'
  refine ⟨?_, fun q => ?_, ?_⟩
  · rw [config_step, config_step]
  · rw [left, right]
    exact (h.fetch_at_cursor path width).2 q
  · have asked : r.asked? s = r.asked? s' := by
      unfold asked?
      rw [reading, reading']
    rw [openCount_step refusals, openCount_step refusals, asked, Nat.add_zero]

/-- Steps with one outcome that leave twins show the same, and so does every run that
goes on from them. -/
theorem observations_cons_of_twins (outcome : (r.step s).1 = (r.step s').1)
    (twins : Twins 0 (r.step s).2 (r.step s').2) (more : List Step) :
    r.observations (s :: more) = r.observations (s' :: more) := by
  have first : Observation.ofStep (r.step s) = Observation.ofStep (r.step s') :=
    Twins.ofStep_eq outcome twins
  have rest : (r.step s).2.observations more = (r.step s').2.observations more :=
    (twins.observations more).trans (List.map_id _)
  exact congrArg₂ List.cons first rest

/-- **Reads at the cursor.**  After any run of a new reader over files in memory, take any
path.  Bytes, as many as are asked for, numbers and fields are read from the cursor on
as they are read at the offset of the cursor: the two reads give the same value or the
same error, and show the same, and so does every run that goes on from them. -/
theorem read_at_cursor (files : PathMap (List UInt8)) (config : ReaderConfig)
    (past : List Step) (path : String) (more : List Step) :
    let r := (Reader.new (MemoryStore.ofFiles files) config).after past
    let cursor := r.cursor path
    (∀ form : ReadForm, r.observations (form.step path none :: more)
      = r.observations (form.step path (some cursor) :: more)) ∧
    ∀ kind, r.observations (.field path none kind :: more)
      = r.observations (.field path (some cursor) kind :: more) := by
  intro r cursor
  have presents : Presents r (contentsAfter files · past.reverse)
      (viewAfter files config.maxReadLength · past.reverse) := by
    have after := presents_after files config past.reverse
    rwa [List.reverse_reverse] at after
  have refusals : r.store.refusals = .empty := refusals_after rfl past
  constructor
  · intro form
    have given := (presents.fetch_at_cursor path form.width).1
    have names : ∀ offset, (form.step path offset).path? = some path := by
      intro offset
      cases form <;> rfl
    by_cases oversized : form.Oversized r.config.maxReadLength
    · change Observation.ofStep (r.step _) :: (r.step _).2.observations more
        = Observation.ofStep (r.step _) :: (r.step _).2.observations more
      rw [step_of_oversized oversized, step_of_oversized oversized]
    · refine observations_cons_of_twins ?_ ?_ more
      · rw [outcome_of_allowed oversized, outcome_of_allowed oversized, given]
      · exact twins_at_cursor presents refusals (names _) (names _)
          (spans_of_allowed oversized path none) (spans_of_allowed oversized path _)
  · intro kind
    have given := (presents.fetch_at_cursor path kind.width).1
    refine observations_cons_of_twins ?_ ?_ more
    · simp only [Reader.step, readField_eq, given]
      rfl
    · exact twins_at_cursor presents refusals rfl rfl rfl rfl

end Reader

end ScanFilter
