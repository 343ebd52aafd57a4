import ScanFilter.Session
/-!
# What a step does to a reader

A step that reads does so through the handle of its path, one span after the other,
up to the first span that cannot be read.  Everything else a step does is to finish,
to change the store, or to ask the store for a file past the handles.  So a step is
told by the path that it reads, the spans that it reads there, and the path that it
asks the store for.

* `step_of_reading`, `step_of_not_reading` — the reader after a step that reads, and
  after one that does not;
* `step_sameCache` — reading changes nothing but a handle after it was acquired;
* `store_step`, `config_step` — the store and the set-up after any step.
-/

namespace ScanFilter

/-- A span of a file; without an offset it starts at the cursor. -/
structure Span where
  offset : Option Nat
  width : Nat

namespace Step

/-- The spans that a step reads in turn, up to the first that cannot be read.  A span
of bytes over the limit is not read at all. -/
def spans (limit : Nat) : Step → List Span
  | bytes _ offset length => if limit < length then [] else [⟨offset, length⟩]
  | int _ offset => [⟨offset, 4⟩]
  | long _ offset | double _ offset => [⟨offset, 8⟩]
  | field _ offset kind | compare _ offset kind _ _ => [⟨offset, kind.width⟩]
  | filter _ fields _ => fields.map fun f => ⟨f.2, f.1.width⟩
  | finish | insert .. | insertDirectory _ | remove _ | readWhole _ => []

/-- The path that a step reads through its handle. -/
def reading? (limit : Nat) (s : Step) : Option String :=
  if (s.spans limit).isEmpty then none else s.path?

theorem spans_of_reading {limit : Nat} {s : Step} {path : String}
    (h : s.reading? limit = some path) : ∃ g gs, s.spans limit = g :: gs := by
  unfold reading? at h
  cases hs : s.spans limit with
  | nil =>
      rw [hs] at h
      cases h
  | cons g gs => exact ⟨g, gs, rfl⟩

theorem reading?_of_single {limit : Nat} {s : Step} {path : String} {g : Span}
    (spans : s.spans limit = [g]) (names : s.path? = some path) :
    s.reading? limit = some path := by
  unfold reading?
  rw [spans]
  exact names

/-- The path that a step opens past the handles. -/
def direct? : Step → Option String
  | readWhole path => some path
  | _ => none

/-- What a step makes of a store, opening apart. -/
def write {σ : Type} [FileStore σ] (store : σ) : Step → σ
  | insert path contents => FileStore.insert store path contents
  | insertDirectory path => FileStore.insertDirectory store path
  | remove path => FileStore.remove store path
  | _ => store

end Step

/-- The value of a field of some bytes. -/
def FieldKind.value (kind : FieldKind) (bytes : List UInt8) : TypedValue :=
  match kind with
  | int => .int (.ofNat (Bytes.ofBigEndian bytes))
  | long => .long (.ofNat (Bytes.ofBigEndian bytes))
  | double => .double ⟨.ofNat (Bytes.ofBigEndian bytes)⟩

namespace Reader

variable {σ : Type} [FileStore σ] {r : Reader σ} {s : Step} {path : String}

/-- The reader after it read spans of a path in turn, up to the first that cannot be
read. -/
def visit (r : Reader σ) (path : String) : List Span → Reader σ
  | [] => r
  | g :: gs =>
    match r.fetch path g.offset g.width with
    | (.error _, r) => r
    | (.ok _, r) => r.visit path gs

theorem visit_single (r : Reader σ) (path : String) (g : Span) :
    r.visit path [g] = (r.fetch path g.offset g.width).2 := by
  unfold visit
  obtain ⟨result, s⟩ := r.fetch path g.offset g.width
  cases result <;> rfl

theorem readField_eq (r : Reader σ) (path : String) (offset : Option Nat)
    (kind : FieldKind) :
    r.readField path offset kind
      = ((r.fetch path offset kind.width).1.map kind.value,
          (r.fetch path offset kind.width).2) := by
  cases kind with
  | int =>
      simp only [readField, readInt, FieldKind.width]
      obtain ⟨result, after⟩ := r.fetch path offset 4
      cases result <;> rfl
  | long =>
      simp only [readField, readLong, FieldKind.width]
      obtain ⟨result, after⟩ := r.fetch path offset 8
      cases result <;> rfl
  | double =>
      simp only [readField, readDouble, FieldKind.width]
      obtain ⟨result, after⟩ := r.fetch path offset 8
      cases result <;> rfl

theorem readFields_visit (r : Reader σ) (path : String)
    (fields : List (FieldKind × Option Nat)) :
    (r.readFields path fields).2
      = r.visit path (fields.map fun f => ⟨f.2, f.1.width⟩) := by
  induction fields generalizing r with
  | nil => rfl
  | cons field fields ih =>
      obtain ⟨kind, offset⟩ := field
      simp only [readFields, readField_eq, List.map_cons, visit]
      obtain ⟨result, after⟩ := r.fetch path offset kind.width
      cases result with
      | error e => rfl
      | ok bytes => exact ih after

theorem compareField_eq (r : Reader σ) (path : String) (offset : Option Nat)
    (kind : FieldKind) (op : ComparisonOperator) (literal : TypedValue) :
    r.compareField path offset kind op literal
      = (((r.readField path offset kind).1.mapError .storage).bind fun field =>
            ((compareTyped op field literal).bind TypedValue.asBoolean).mapError .filter,
          (r.readField path offset kind).2) := by
  unfold compareField
  obtain ⟨result, after⟩ := r.readField path offset kind
  cases result <;> rfl

theorem filterFields_eq (r : Reader σ) (path : String)
    (fields : List (FieldKind × Option Nat)) (filter : Expr) :
    r.filterFields path fields filter
      = (((r.readFields path fields).1.mapError .storage).bind fun row =>
            (filter.matchesRow row).mapError .filter,
          (r.readFields path fields).2) := by
  unfold filterFields
  obtain ⟨result, after⟩ := r.readFields path fields
  cases result <;> rfl

/-- A step that reads visits the spans of its path. -/
theorem step_of_reading (h : s.reading? r.config.maxReadLength = some path) :
    (r.step s).2 = r.visit path (s.spans r.config.maxReadLength) := by
  unfold Step.reading? at h
  cases s with
  | bytes p offset length =>
      -- Bytes over the limit are no span, so such a step does not read.
      by_cases hl : r.config.maxReadLength < length
      · simp [Step.spans, hl] at h
      · simp only [Step.spans, if_neg hl] at h ⊢
        cases h
        rw [visit_single]
        simp only [step, readBytes, if_neg hl]
  | int p offset =>
      cases h
      exact (visit_single r path ⟨offset, 4⟩).symm
  | long p offset =>
      cases h
      exact (visit_single r path ⟨offset, 8⟩).symm
  | double p offset =>
      cases h
      exact (visit_single r path ⟨offset, 8⟩).symm
  | field p offset kind =>
      cases h
      simp only [Step.spans, visit_single, step, readField_eq]
  | compare p offset kind op literal =>
      cases h
      simp only [Step.spans, visit_single, step, compareField_eq, readField_eq]
  | filter p fields f =>
      split at h
      · cases h
      · cases h
        simp only [Step.spans, ← readFields_visit, step, filterFields_eq]
  | finish => cases h
  | insert p contents => cases h
  | insertDirectory p => cases h
  | remove p => cases h
  | readWhole p => cases h

/-- A step that does not read leaves the handles alone, unless it finishes, and makes
of the store what it writes after it opened a file past the handles. -/
theorem step_of_not_reading (h : s.reading? r.config.maxReadLength = none)
    (hf : s ≠ .finish) :
    (r.step s).2 = { r with
      store := s.write (match s.direct? with
        | some path => (FileStore.openFile r.store path).2
        | none => r.store) } := by
  unfold Step.reading? at h
  cases s with
  | bytes path offset length =>
      by_cases hl : r.config.maxReadLength < length
      · simp only [step, readBytes_tooLarge hl]
        rfl
      · simp [Step.spans, hl, Step.path?] at h
  | int path offset => cases h
  | long path offset => cases h
  | double path offset => cases h
  | field path offset kind => cases h
  | compare path offset kind op literal => cases h
  | filter path fields f =>
      cases fields with
      | nil => rfl
      | cons field fields => cases h
  | finish => exact absurd rfl hf
  | insert path contents => rfl
  | insertDirectory path => rfl
  | remove path => rfl
  | readWhole path =>
      simp only [step, readWhole, Step.write, Step.direct?]
      obtain ⟨opened, store⟩ := FileStore.openFile r.store path
      cases opened.bind (Source.contents (FileStore.held store)) <;> rfl

theorem write_of_reading {limit : Nat} (h : s.reading? limit = some path) (store : σ) :
    s.write store = store := by
  cases s with
  | insert path contents => cases h
  | insertDirectory path => cases h
  | remove path => cases h
  | _ => rfl

/-- The path that a step asks the store to open, if it asks for one: a step that reads
asks for a path without a handle. -/
def asked? (r : Reader σ) (s : Step) : Option String :=
  match s.reading? r.config.maxReadLength with
  | some path => if r.isCached path then none else some path
  | none => s.direct?

/-- Whether two readers have handles for the same paths, one store and one set-up. -/
structure SameCache (r t : Reader σ) : Prop where
  isCached : ∀ path, t.isCached path = r.isCached path
  store : t.store = r.store
  config : t.config = r.config

omit [FileStore σ] in
theorem sameCache_refl (r : Reader σ) : SameCache r r := ⟨fun _ => rfl, rfl, rfl⟩

omit [FileStore σ] in
theorem SameCache.trans {t u : Reader σ} (h : SameCache r t) (h' : SameCache t u) :
    SameCache r u :=
  ⟨fun path => (h'.isCached path).trans (h.isCached path), h'.store.trans h.store,
    h'.config.trans h.config⟩

theorem acquire_of_isCached (h : r.isCached path = true) : (r.acquire path).2 = r := by
  rw [isCached_eq] at h
  obtain ⟨handle, held⟩ := Option.isSome_iff_exists.mp h
  rw [acquire_cached held]

/-- Without a handle the store is asked, and a file that it gives has a handle from
then on. -/
theorem acquire_of_not_isCached (h : r.isCached path = false) :
    (r.acquire path).2.store = (FileStore.openFile r.store path).2 ∧
    (r.acquire path).2.config = r.config ∧
    ∀ q, (r.acquire path).2.isCached q = true ↔ r.isCached q = true ∨
      q = path ∧ ∃ source, (FileStore.openFile r.store path).1 = .ok source := by
  rw [isCached_eq] at h
  have missing : r.handle? path = none :=
    Option.isNone_iff_eq_none.mp (Option.isSome_eq_false_iff.mp h)
  rw [acquire_eq, missing]
  obtain ⟨opened, store⟩ := FileStore.openFile r.store path
  cases opened with
  | error e => exact ⟨rfl, rfl, fun q => by simp [isCached]⟩
  | ok source =>
      refine ⟨rfl, rfl, fun q => ?_⟩
      rw [isCached_put]
      simp [isCached, or_comm]

theorem isCached_of_acquire {h : Handle} {after : Reader σ}
    (ha : r.acquire path = (.ok h, after)) : after.isCached path = true := by
  rw [acquire_eq] at ha
  split at ha
  · next g held =>
      cases ha
      rw [isCached_eq, held]
      rfl
  · split at ha
    · cases ha
      rw [isCached_put]
      simp
    · cases ha

/-- Reading a span changes nothing but a handle after it was acquired. -/
theorem fetch_sameCache (r : Reader σ) (path : String) (offset : Option Nat)
    (width : Nat) : SameCache (r.acquire path).2 (r.fetch path offset width).2 := by
  unfold fetch
  split
  · next e after ha =>
      rw [ha]
      exact sameCache_refl after
  · next h after ha =>
      rw [ha]
      refine ⟨fun q => (isCached_put ..).trans ?_, rfl, rfl⟩
      -- The handle is put back under its own path, which has had one since it was acquired.
      by_cases hq : q = path
      · rw [hq]
        simp only [decide_true, Bool.true_or]
        exact (isCached_of_acquire ha).symm
      · simp [hq]

theorem isCached_of_fetch {offset : Option Nat} {width : Nat} {bytes : List UInt8}
    {after : Reader σ} (h : r.fetch path offset width = (.ok bytes, after)) :
    after.isCached path = true := by
  have same := (fetch_sameCache r path offset width).isCached path
  rw [h] at same
  rw [same]
  unfold fetch at h
  split at h
  · cases h
  · next handle acquired ha =>
      rw [ha]
      exact isCached_of_acquire ha

/-- Reading spans of a path with a handle changes nothing but the handle. -/
theorem visit_sameCache_of_isCached (h : r.isCached path = true) (gs : List Span) :
    SameCache r (r.visit path gs) := by
  induction gs generalizing r with
  | nil => exact sameCache_refl r
  | cons g gs ih =>
      have first := fetch_sameCache r path g.offset g.width
      rw [acquire_of_isCached h] at first
      unfold visit
      split
      · next e after hr =>
          rw [hr] at first
          exact first
      · next bytes after hr =>
          rw [hr] at first
          exact first.trans (ih (isCached_of_fetch hr))

/-- Reading spans changes nothing but the handle after it was acquired for the first
of them. -/
theorem visit_sameCache (r : Reader σ) (path : String) (g : Span) (gs : List Span) :
    SameCache (r.acquire path).2 (r.visit path (g :: gs)) := by
  have first := fetch_sameCache r path g.offset g.width
  unfold visit
  split
  · next e after hr =>
      rw [hr] at first
      exact first
  · next bytes after hr =>
      rw [hr] at first
      exact first.trans (visit_sameCache_of_isCached (isCached_of_fetch hr) gs)

/-- A step that reads changes nothing but the handle after it was acquired. -/
theorem step_sameCache (h : s.reading? r.config.maxReadLength = some path) :
    SameCache (r.acquire path).2 (r.step s).2 := by
  obtain ⟨g, gs, hs⟩ := Step.spans_of_reading h
  rw [step_of_reading h, hs]
  exact visit_sameCache r path g gs

/-- The store after a step: the step writes to what asking the store leaves. -/
theorem store_step (r : Reader σ) (s : Step) :
    (r.step s).2.store = s.write (match r.asked? s with
      | some path => (FileStore.openFile r.store path).2
      | none => r.store) := by
  unfold asked?
  cases hr : s.reading? r.config.maxReadLength with
  | some path =>
      rw [(step_sameCache hr).store, write_of_reading hr]
      cases hc : r.isCached path with
      | true => simp [acquire_of_isCached hc, hc]
      | false => simp [(acquire_of_not_isCached hc).1, hc]
  | none =>
      by_cases hf : s = .finish
      · rw [hf]
        rfl
      · rw [step_of_not_reading hr hf]

/-- No step changes how a reader is set up. -/
theorem config_step (r : Reader σ) (s : Step) : (r.step s).2.config = r.config := by
  cases hr : s.reading? r.config.maxReadLength with
  | some path =>
      rw [(step_sameCache hr).config]
      cases hc : r.isCached path with
      | true => rw [acquire_of_isCached hc]
      | false => exact (acquire_of_not_isCached hc).2.1
  | none =>
      by_cases hf : s = .finish
      · rw [hf]
        rfl
      · rw [step_of_not_reading hr hf]

theorem config_after (r : Reader σ) (steps : List Step) :
    (r.after steps).config = r.config := by
  induction steps generalizing r with
  | nil => rfl
  | cons s steps ih => exact (ih (r.step s).2).trans (config_step r s)

/-- Writing to files in memory neither refuses nor counts anything. -/
theorem write_memory (m : MemoryStore) (s : Step) :
    (s.write m).refusals = m.refusals ∧ (s.write m).openCount = m.openCount := by
  cases s <;> exact ⟨rfl, rfl⟩

theorem refusals_step (r : Reader MemoryStore) (s : Step) :
    (r.step s).2.store.refusals = r.store.refusals := by
  rw [store_step, (write_memory _ s).1]
  cases r.asked? s with
  | none => rfl
  | some path => exact (r.store.openFile_files path).2

end Reader

end ScanFilter
