import ScanFilter.Storage.FileStore
import ScanFilter.Storage.Handle
/-!
# Reading through cached handles

Opening a file is expensive, so a reader keeps one open handle for each path
until it is told to finish.  Two paths never share a handle, even when they lead
to the same file.

The handle of a path is in a slot.  The slot is there, and empty, before the file is
opened; it goes away again if that fails.  So it is empty during a call at most, and a
reader between two calls has none that is.

* `SettledBut.fill`, `SettledBut.erase` — the slot that was reserved does not stay empty;
* `isCached_eq` — a path with a slot has a handle;
* `acquire_eq` — a path that has a handle is not opened again;
* `readBytes_tooLarge` — a read over the limit touches nothing.
-/

namespace ScanFilter

/-- How a reader is set up. -/
structure ReaderConfig where
  /-- How many bytes a handle fetches at once when a read asks for less. -/
  bufferCapacity : Nat := 8192
  /-- The most bytes that one read of a byte range may fetch. -/
  maxReadLength : Nat := 64 * 1024 * 1024

/-- A slot for each path that is read: an open handle, or none yet. -/
abbrev Slots := PathMap (Option Handle)

namespace Slots

/-- Whether no slot is empty. -/
def Settled (slots : Slots) : Prop := ∀ path, slots.get? path ≠ some none

/-- Whether no slot is empty but that of a path. -/
def SettledBut (slots : Slots) (path : String) : Prop :=
  ∀ q, q ≠ path → slots.get? q ≠ some none

/-- The slots with one for a path, which is empty if it is new. -/
def reserve (slots : Slots) (path : String) : Slots :=
  if slots.contains path then slots else slots.insert path none

variable {slots : Slots} {path : String}

theorem settled_empty : Settled .empty := fun _ => nofun

theorem Settled.but (h : slots.Settled) (path : String) : slots.SettledBut path :=
  fun q _ => h q

/-- Reserving a slot leaves the others as they are. -/
theorem Settled.reserve (h : slots.Settled) (path : String) :
    (slots.reserve path).SettledBut path := by
  intro q other
  unfold Slots.reserve
  split
  · exact h q
  · rw [PathMap.get?_insert, if_neg other]
    exact h q

/-- A handle fills the slot of its path. -/
theorem SettledBut.fill (h : slots.SettledBut path) (handle : Handle) :
    Settled (slots.insert path (some handle)) := by
  intro q
  rw [PathMap.get?_insert]
  split
  · exact nofun
  · next other => exact h q other

/-- A slot that is removed is not empty any more. -/
theorem SettledBut.erase (h : slots.SettledBut path) : Settled (slots.erase path) := by
  intro q
  rw [PathMap.get?_erase]
  split
  · exact nofun
  · next other => exact h q other

/-- A path without a slot gets an empty one. -/
theorem reserve_of_missing (h : slots.get? path = none) :
    slots.reserve path = slots.insert path none := by
  simp [reserve, PathMap.contains, h]

end Slots

/-- A store of files, the slots of the paths, and the set-up. -/
structure Reader (σ : Type) where
  store : σ
  slots : Slots
  config : ReaderConfig
  settled : slots.Settled

namespace Reader

variable {σ : Type}

/-- A reader without open handles. -/
def new (store : σ) (config : ReaderConfig) : Reader σ :=
  ⟨store, .empty, config, Slots.settled_empty⟩

/-- Closes every handle. -/
def finish (r : Reader σ) : Reader σ :=
  { r with slots := .empty, settled := Slots.settled_empty }

/-- Whether a path has a slot. -/
def isCached (r : Reader σ) (path : String) : Bool := r.slots.contains path

/-- How many paths have a slot. -/
def handleCount (r : Reader σ) : Nat := r.slots.size

/-- The open handle of a path. -/
def handle? (r : Reader σ) (path : String) : Option Handle := (r.slots.get? path).join

/-- The reader with a handle in the slot of a path. -/
def put (r : Reader σ) (path : String) (h : Handle) : Reader σ :=
  { r with
    slots := r.slots.insert path (some h)
    settled := (r.settled.but path).fill h }

variable [FileStore σ]

/-- The handle of a path, opened at the start of the file when there was none.  The slot
of the path is reserved before the file is opened, and a file that cannot be opened
leaves no slot. -/
def acquire (r : Reader σ) (path : String) : Except IoError Handle × Reader σ :=
  let slots := r.slots.reserve path
  match (slots.get? path).join with
  | some h => (.ok h, r)
  | none =>
    match FileStore.openFile r.store path with
    | (.ok source, store) =>
      let h := Handle.ofSource source
      (.ok h, { r with
        store
        slots := slots.insert path (some h)
        settled := (r.settled.reserve path).fill h })
    | (.error e, store) =>
      (.error e, { r with
        store
        slots := slots.erase path
        settled := (r.settled.reserve path).erase })

/-- Reads a range through the handle of a path; without an offset, from the
recorded position on. -/
def fetch (r : Reader σ) (path : String) (offset : Option Nat) (width : Nat) :
    Except StorageError (List UInt8) × Reader σ :=
  match r.acquire path with
  | (.error e, r) => (.error (.ioFailure path e), r)
  | (.ok h, r) =>
    let (result, h) :=
      h.read (FileStore.held r.store) r.config.bufferCapacity offset width
    (result.mapError (.ioFailure path), r.put path h)

/-- Reads a range of bytes, unless it is too large. -/
def readBytes (r : Reader σ) (path : String) (offset : Option Nat) (length : Nat) :
    Except StorageError (List UInt8) × Reader σ :=
  if r.config.maxReadLength < length then
    (.error (.readTooLarge path length r.config.maxReadLength), r)
  else r.fetch path offset length

/-- Opens a file past the handles and reads all of it. -/
def readWhole (r : Reader σ) (path : String) :
    Except IoError (List UInt8) × Reader σ :=
  let (opened, store) := FileStore.openFile r.store path
  (opened.bind (Source.contents (FileStore.held store)), { r with store })

omit [FileStore σ] in
/-- A path that is cached has a handle: no slot of a reader is empty. -/
theorem isCached_eq (r : Reader σ) (path : String) :
    r.isCached path = (r.handle? path).isSome := by
  have filled := r.settled path
  unfold isCached PathMap.contains handle?
  cases slot : r.slots.get? path with
  | none => rfl
  | some handle =>
      cases handle with
      | none => exact absurd slot filled
      | some h => rfl

omit [FileStore σ] in
/-- A handle that is put under a path is the handle of this path and of no other. -/
theorem handle?_put (r : Reader σ) (path q : String) (h : Handle) :
    (r.put path h).handle? q = if q = path then some h else r.handle? q := by
  unfold handle? put
  rw [PathMap.get?_insert]
  split
  · rfl
  · rfl

omit [FileStore σ] in
/-- After a handle was put under a path, this path is cached, and the others as before. -/
theorem isCached_put (r : Reader σ) (path q : String) (h : Handle) :
    (r.put path h).isCached q = (decide (q = path) || r.isCached q) :=
  PathMap.contains_insert ..

/-- What acquiring a handle comes to: a path that has one is not opened again, and a file
that cannot be opened leaves the slots as they were. -/
theorem acquire_eq (r : Reader σ) (path : String) :
    r.acquire path = match r.handle? path with
      | some h => (.ok h, r)
      | none => match FileStore.openFile r.store path with
        | (.ok source, store) =>
          (.ok (.ofSource source), ({ r with store } : Reader σ).put path (.ofSource source))
        | (.error e, store) => (.error e, { r with store }) := by
  have cached := r.isCached_eq path
  cases held : r.handle? path with
  | some h =>
      rw [held] at cached
      have kept : r.slots.reserve path = r.slots := if_pos cached
      have found : ((r.slots.reserve path).get? path).join = some h := by
        rw [kept]
        exact held
      simp only [acquire, found]
  | none =>
      rw [held] at cached
      have missing : r.slots.get? path = none :=
        Option.isNone_iff_eq_none.mp (Option.isSome_eq_false_iff.mp cached)
      have reserved := Slots.reserve_of_missing missing
      have empty : ((r.slots.reserve path).get? path).join = none := by
        rw [reserved, PathMap.get?_insert, if_pos rfl]
        rfl
      have filled (h : Handle) : (r.slots.reserve path).insert path (some h)
          = r.slots.insert path (some h) := by
        rw [reserved, PathMap.insert_insert]
      have removed : (r.slots.reserve path).erase path = r.slots := by
        rw [reserved, PathMap.erase_insert, PathMap.erase_of_missing missing]
      simp only [acquire, empty, filled, removed]
      rfl

/-- A path that has a handle is not opened again. -/
theorem acquire_cached {r : Reader σ} {path : String} {h : Handle}
    (hc : r.handle? path = some h) : r.acquire path = (.ok h, r) := by
  rw [acquire_eq, hc]

/-- A read over the limit touches nothing. -/
theorem readBytes_tooLarge {r : Reader σ} {length : Nat}
    (h : r.config.maxReadLength < length) (path : String) (offset : Option Nat) :
    r.readBytes path offset length
      = (.error (.readTooLarge path length r.config.maxReadLength), r) :=
  if_pos h

end Reader

end ScanFilter
