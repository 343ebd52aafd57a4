import ScanFilter.Proofs.Storage.Steps
import ScanFilter.Proofs.Storage.Stream
/-!
# Streams in step with their positions

A read without an offset takes bytes from wherever its stream is.  It takes the right ones
because the stream is at the position that is recorded for the handle: a handle on a file
that was just opened is in step in this way, and every read keeps it so.  A read that gave
its bytes has moved the stream by as many as it adds to the position.  One that failed has
taken some bytes, fewer than it was asked for, and makes its stream go back; a file that
let the read begin lets it go back, so that nothing is left of what it took.

What opening gives and every read keeps holds of every handle after any run, over files of
every kind.

* `InStep.read` — a read keeps a handle in step;
* `InStep.read_error` — nothing is left of a read that failed;
* `everyHandle_after` — what holds of every handle after a run;
* `inStep_after` — streams and positions after any run.
-/

namespace ScanFilter

namespace Handle

variable {held : Nat → List UInt8} {capacity width start : Nat} {h : Handle}
  {offset : Option Nat} {s t : Stream}

/-- Whether the stream of a handle is at the position that is recorded. -/
def InStep (h : Handle) : Prop := h.stream.At h.position

theorem inStep_ofSource (s : Source) : (ofSource s).InStep := ⟨rfl, s.seek_zero⟩

/-- A read begins with a stream that is where the read starts. -/
theorem InStep.moveTo (hs : h.InStep) (moved : h.moveTo offset = .ok (s, start)) :
    s.At start ∧ s.source = h.stream.source := by
  unfold Handle.moveTo at moved
  cases offset with
  | none =>
      cases moved
      exact ⟨hs, rfl⟩
  | some o =>
      obtain ⟨stream, gone, same⟩ := Outcome.map_eq_ok moved
      cases same
      obtain ⟨there, rfl⟩ := Stream.at_of_seek gone
      exact ⟨there, rfl⟩

/-- A stream that failed to take bytes goes back to where it was at first. -/
theorem rewind_of_takeExact (hs : s.At start) (held : Nat → List UInt8)
    (capacity width : Nat) :
    (s.takeExact held capacity width).2.rewind start = ⟨s.source, start, []⟩ := by
  have kept := (hs.takeExact held capacity width).1
  have back := hs.seek
  unfold Stream.seek at back
  unfold Stream.rewind Stream.seek
  rw [kept, back]

/-- **Nothing is left of a read that failed.**  Whatever its stream took, the stream is
where the read began, and so is the position. -/
theorem InStep.read_error {e : IoError} (hs : h.InStep)
    (moved : h.moveTo offset = .ok (s, start))
    (failed : (s.takeExact held capacity width).1 = .error e) :
    h.read held capacity offset width
      = (.error e, ⟨⟨h.stream.source, start, []⟩, start⟩) := by
  obtain ⟨there, source⟩ := hs.moveTo moved
  rw [Handle.read_error moved (Prod.ext failed rfl), rewind_of_takeExact there, source]

/-- **A read keeps a handle in step**, whether it gives bytes, fails, or is refused. -/
theorem InStep.read (hs : h.InStep) (held : Nat → List UInt8) (capacity : Nat)
    (offset : Option Nat) (width : Nat) : (h.read held capacity offset width).2.InStep := by
  cases moved : h.moveTo offset with
  | error e =>
      rw [read_refused moved]
      exact hs
  | ok begun =>
      obtain ⟨s, start⟩ := begun
      obtain ⟨there, source⟩ := hs.moveTo moved
      cases taken : (s.takeExact held capacity width).1 with
      | error e =>
          rw [hs.read_error moved taken, ← source]
          exact (Stream.at_of_seek there.seek).1
      | ok bytes =>
          rw [read_ok moved (Prod.ext taken rfl)]
          exact ((there.takeExact held capacity width).2 bytes taken).2

end Handle

namespace Reader

variable {σ : Type} [FileStore σ] {r : Reader σ} {P : Handle → Prop}

/-- Whether something holds of every handle of a reader. -/
def EveryHandle (r : Reader σ) (P : Handle → Prop) : Prop :=
  ∀ path h, r.handle? path = some h → P h

omit [FileStore σ] in
theorem everyHandle_new (store : σ) (config : ReaderConfig) (P : Handle → Prop) :
    (Reader.new store config).EveryHandle P :=
  fun _ _ => nofun

omit [FileStore σ] in
theorem everyHandle_put (hr : r.EveryHandle P) {h : Handle} (hh : P h) (path : String) :
    (r.put path h).EveryHandle P := by
  intro q g found
  rw [handle?_put] at found
  split at found
  · cases found
    exact hh
  · exact hr q g found

section Kept

variable (opened : ∀ source, P (.ofSource source))
  (kept : ∀ held capacity h offset width, P h → P (Handle.read held capacity h offset width).2)
include opened

theorem everyHandle_acquire (hr : r.EveryHandle P) (path : String) :
    (r.acquire path).2.EveryHandle P ∧ ∀ h, (r.acquire path).1 = .ok h → P h := by
  rw [acquire_eq]
  cases found : r.handle? path with
  | some h =>
      refine ⟨hr, fun g same => ?_⟩
      cases same
      exact hr path h found
  | none =>
      obtain ⟨result, store⟩ := FileStore.openFile r.store path
      cases result with
      | error e => exact ⟨hr, nofun⟩
      | ok source =>
          refine ⟨everyHandle_put (r := { r with store }) hr (opened source) path, ?_⟩
          intro g same
          cases same
          exact opened source

include kept

theorem everyHandle_fetch (hr : r.EveryHandle P) (path : String) (offset : Option Nat)
    (width : Nat) : (r.fetch path offset width).2.EveryHandle P := by
  obtain ⟨acquired, handle⟩ := everyHandle_acquire opened hr path
  unfold fetch
  split
  · next e after ha =>
      rw [ha] at acquired
      exact acquired
  · next h after ha =>
      rw [ha] at acquired handle
      exact everyHandle_put acquired (kept _ _ h offset width (handle h rfl)) path

theorem everyHandle_visit (hr : r.EveryHandle P) (path : String) (gs : List Span) :
    (r.visit path gs).EveryHandle P := by
  induction gs generalizing r with
  | nil => exact hr
  | cons g gs ih =>
      have first := everyHandle_fetch opened kept hr path g.offset g.width
      unfold visit
      split
      · next e after read =>
          rw [read] at first
          exact first
      · next bytes after read =>
          rw [read] at first
          exact ih first

/-- A step keeps what opening gives and reads keep. -/
theorem everyHandle_step (hr : r.EveryHandle P) (s : Step) :
    (r.step s).2.EveryHandle P := by
  cases reads : s.reading? r.config.maxReadLength with
  | some path =>
      rw [step_of_reading reads]
      exact everyHandle_visit opened kept hr path _
  | none =>
      by_cases finish : s = .finish
      · subst finish
        exact everyHandle_new r.store r.config P
      · rw [step_of_not_reading reads finish]
        exact hr

/-- **Every handle after a run.**  What opening gives and every read keeps holds of every
handle, after any run from a reader where it does. -/
theorem everyHandle_after (hr : r.EveryHandle P) (steps : List Step) :
    (r.after steps).EveryHandle P := by
  induction steps generalizing r with
  | nil => exact hr
  | cons s steps ih => exact ih (everyHandle_step opened kept hr s)

end Kept

/-- **Streams stay in step.**  After any run of a new reader, over files of any kind and
whatever its reads gave, the stream of every handle is at the position that is recorded,
and its file can go back there. -/
theorem inStep_after (store : σ) (config : ReaderConfig) (steps : List Step) :
    ((Reader.new store config).after steps).EveryHandle Handle.InStep :=
  everyHandle_after Handle.inStep_ofSource
    (fun held capacity _ offset width hs => hs.read held capacity offset width)
    (everyHandle_new store config _) steps

end Reader

end ScanFilter
