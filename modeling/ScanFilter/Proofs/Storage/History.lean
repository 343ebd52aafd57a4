import ScanFilter.Proofs.Storage.View
/-!
# History determines every read

The history of a reader over files in memory is the list of the steps it took, the
latest first.  It determines what every path holds and the view of its handle: the
contents that the path had when the handle was opened, and the end of the latest read
on it, or the start if that read failed.  What the next read gives is told by these
and by its span alone.

* `contentsAfter`, `viewAfter` — what a history makes of a path;
* `presents_after` — a reader presents what its history determines;
* `openedWith_of_viewAfter`, `leftWith_of_viewAfter` — the step that opened a handle
  tells the contents of its view, and the latest one that read through it the cursor;
* `read_after_history` — the outcome of a read after any history.
-/

namespace ScanFilter

/-- The number of a word in two's complement, the most significant byte first. -/
def Bytes.signed (bytes : List UInt8) : Int :=
  (Bytes.ofBigEndian bytes : Int).bmod (Nat.pow 256 bytes.length)

/-- The kinds of reads: of bytes, or of a number. -/
inductive ReadForm
  | bytes (length : Nat)
  | int
  | long
  | double

namespace ReadForm

/-- The step that reads a path in some form. -/
def step (path : String) (offset : Option Nat) : ReadForm → Step
  | bytes length => .bytes path offset length
  | int => .int path offset
  | long => .long path offset
  | double => .double path offset

/-- How many bytes a read takes. -/
def width : ReadForm → Nat
  | bytes length => length
  | int => 4
  | long | double => 8

/-- Whether a read asks for more bytes than the limit allows. -/
def Oversized (limit : Nat) : ReadForm → Prop
  | bytes length => limit < length
  | _ => False

/-- What a read makes of the bytes that it found. -/
def decode : ReadForm → List UInt8 → Outcome
  | bytes _, found => .bytes found
  | int, found => .int (.ofNat (Bytes.ofBigEndian found))
  | long, found => .long (.ofNat (Bytes.ofBigEndian found))
  | double, found => .double ⟨.ofNat (Bytes.ofBigEndian found)⟩

/-- Whether an outcome is the bytes that a read found, or the number of which they are
the word. -/
def Decodes (found : List UInt8) (outcome : Outcome) : ReadForm → Prop
  | bytes _ => outcome = .bytes found
  | int => ∃ n, outcome = .int n ∧ n.toInt = Bytes.signed found
  | long => ∃ n, outcome = .long n ∧ n.toInt = Bytes.signed found
  | double => ∃ x, outcome = .double x ∧ x.bits.toNat = Bytes.ofBigEndian found

/-- As many bytes as a read takes are the word of the number that it makes of them. -/
theorem decodes_decode {form : ReadForm} {found : List UInt8}
    (length : found.length = form.width) : form.Decodes found (form.decode found) := by
  cases form with
  | bytes count => rfl
  | int =>
      refine ⟨_, rfl, ?_⟩
      rw [Int32.toInt_ofNat', Bytes.signed, length]
      rfl
  | long =>
      refine ⟨_, rfl, ?_⟩
      rw [Int64.toInt_ofNat', Bytes.signed, length]
      rfl
  | double =>
      refine ⟨_, rfl, ?_⟩
      have small := Bytes.ofLittleEndian_lt found.reverse
      rw [List.length_reverse, length] at small
      rw [UInt64.toNat_ofNat']
      exact Nat.mod_eq_of_lt small

end ReadForm

/-- What a path holds after a history over some files. -/
def contentsAfter (files : PathMap (List UInt8)) (path : String) :
    List Step → Option (List UInt8)
  | [] => files.get? path
  | s :: past => s.nextContents path (contentsAfter files path past)

/-- The view of a path after a history of a new reader over some files. -/
def viewAfter (files : PathMap (List UInt8)) (limit : Nat) (path : String) :
    List Step → Option View
  | [] => none
  | s :: past =>
    s.nextView limit path (contentsAfter files path past) (viewAfter files limit path past)

/-- Whether a step of a history opened the handle of a path while the path had some
contents, and no later step finishes. -/
def OpenedWith (files : PathMap (List UInt8)) (limit : Nat) (path : String)
    (past : List Step) (contents : List UInt8) : Prop :=
  ∃ later s earlier, past = later ++ s :: earlier ∧ Step.finish ∉ later ∧
    s.reading? limit = some path ∧ viewAfter files limit path earlier = none ∧
    contentsAfter files path earlier = some contents

/-- Whether the latest step of a history that reads a path left it with some view, and
no later step finishes. -/
def LeftWith (files : PathMap (List UInt8)) (limit : Nat) (path : String)
    (past : List Step) (view : View) : Prop :=
  ∃ later s earlier found, past = later ++ s :: earlier ∧ Step.finish ∉ later ∧
    (∀ t ∈ later, t.reading? limit ≠ some path) ∧ s.reading? limit = some path ∧
    View.found? (contentsAfter files path earlier) (viewAfter files limit path earlier)
      = some found ∧
    view = found.advanceAll (s.spans limit)

/-- A new reader presents the contents and views that its history determines. -/
theorem presents_after (files : PathMap (List UInt8)) (config : ReaderConfig)
    (past : List Step) :
    Presents ((Reader.new (MemoryStore.ofFiles files) config).after past.reverse)
      (contentsAfter files · past) (viewAfter files config.maxReadLength · past) := by
  induction past with
  | nil => exact ⟨fun _ => rfl, fun _ => rfl, fun _ => .none⟩
  | cons s past ih =>
      have next := ih.step s
      rw [Reader.config_after] at next
      rw [List.reverse_cons, Reader.after_append]
      exact next

theorem View.contents_advanceAll (v : View) (gs : List Span) :
    (v.advanceAll gs).contents = v.contents := by
  induction gs generalizing v with
  | nil => rfl
  | cons g gs ih =>
      rw [advanceAll]
      split
      · exact ih (v.advance g)
      · rfl

/-- A view is left by the latest step, which reads the path, or it was there before. -/
theorem viewAfter_cons_eq_some {files : PathMap (List UInt8)} {limit : Nat}
    {path : String} {s : Step} {past : List Step} {view : View}
    (h : viewAfter files limit path (s :: past) = some view) :
    s ≠ .finish ∧
      ((s.reading? limit ≠ some path ∧ viewAfter files limit path past = some view) ∨
        (s.reading? limit = some path ∧ ∃ found,
          View.found? (contentsAfter files path past) (viewAfter files limit path past)
            = some found ∧
          view = found.advanceAll (s.spans limit))) := by
  have hf : s ≠ .finish := by
    rintro rfl
    cases h
  refine ⟨hf, ?_⟩
  rw [viewAfter, Step.nextView_of_ne_finish hf] at h
  by_cases hr : s.reading? limit = some path
  · rw [if_pos hr] at h
    obtain ⟨found, hfound, rfl⟩ := Option.map_eq_some_iff.mp h
    exact .inr ⟨hr, found, hfound, rfl⟩
  · rw [if_neg hr] at h
    exact .inl ⟨hr, h⟩

theorem finish_not_mem_cons {s : Step} {later : List Step} (hf : s ≠ .finish)
    (unfinished : Step.finish ∉ later) : Step.finish ∉ s :: later := by
  intro inside
  rcases List.mem_cons.mp inside with same | inside
  · exact hf same.symm
  · exact unfinished inside

/-- The contents of a view are those that the path had when its handle was opened. -/
theorem openedWith_of_viewAfter (files : PathMap (List UInt8)) (limit : Nat)
    (path : String) {past : List Step} {view : View}
    (h : viewAfter files limit path past = some view) :
    OpenedWith files limit path past view.contents := by
  induction past generalizing view with
  | nil => cases h
  | cons s past ih =>
      have earlier : s ≠ .finish → ∀ v, viewAfter files limit path past = some v →
          OpenedWith files limit path (s :: past) v.contents := by
        intro hf v hv
        obtain ⟨later, t, before, rfl, unfinished, opened⟩ := ih hv
        exact ⟨s :: later, t, before, rfl, finish_not_mem_cons hf unfinished, opened⟩
      obtain ⟨hf, ⟨_, before⟩ | ⟨hr, found, hfound, rfl⟩⟩ := viewAfter_cons_eq_some h
      · exact earlier hf view before
      · rw [View.contents_advanceAll]
        -- Reading through a view keeps its contents, so a step before opened the handle;
        -- without a view it is this step that opens it.
        cases hv : viewAfter files limit path past with
        | some v =>
            rw [hv] at hfound
            cases hfound
            exact earlier hf _ hv
        | none =>
            rw [hv] at hfound
            obtain ⟨file, hc, rfl⟩ := Option.map_eq_some_iff.mp hfound
            exact ⟨[], s, past, rfl, List.not_mem_nil, hr, hv, hc⟩

/-- A view is the one that the latest read of the path left. -/
theorem leftWith_of_viewAfter (files : PathMap (List UInt8)) (limit : Nat)
    (path : String) {past : List Step} {view : View}
    (h : viewAfter files limit path past = some view) :
    LeftWith files limit path past view := by
  induction past with
  | nil => cases h
  | cons s past ih =>
      obtain ⟨hf, ⟨other, before⟩ | ⟨hr, found, hfound, rfl⟩⟩ := viewAfter_cons_eq_some h
      · obtain ⟨later, t, earlier, found, rfl, unfinished, unread, left⟩ := ih before
        refine ⟨s :: later, t, earlier, found, rfl, finish_not_mem_cons hf unfinished, ?_, left⟩
        intro u hu
        rcases List.mem_cons.mp hu with rfl | hu
        · exact other
        · exact unread u hu
      · exact ⟨[], s, past, found, rfl, List.not_mem_nil, by simp, hr, hfound, rfl⟩

section Outcomes

variable {σ : Type} [FileStore σ] {r : Reader σ} {path : String} {offset : Option Nat}
  {form : ReadForm}

/-- A read over the limit is refused and touches nothing. -/
theorem step_of_oversized (h : form.Oversized r.config.maxReadLength) :
    r.step (form.step path offset) =
      (.failed (.storage (.readTooLarge path form.width r.config.maxReadLength)), r) := by
  cases form with
  | bytes length =>
      simp only [ReadForm.step, Reader.step, Reader.readBytes_tooLarge h]
      rfl
  | int => cases h
  | long => cases h
  | double => cases h

/-- A read within the limit makes of the bytes in its span what its form says. -/
theorem outcome_of_allowed (h : ¬ form.Oversized r.config.maxReadLength) :
    (r.step (form.step path offset)).1
      = .ofRead form.decode (r.fetch path offset form.width).1 := by
  cases form with
  | bytes length =>
      have small : ¬ r.config.maxReadLength < length := h
      simp only [ReadForm.step, Reader.step, Reader.readBytes, if_neg small]
      rfl
  | int =>
      simp only [ReadForm.step, Reader.step, Reader.readInt, ReadForm.width]
      obtain ⟨result, after⟩ := r.fetch path offset 4
      cases result <;> rfl
  | long =>
      simp only [ReadForm.step, Reader.step, Reader.readLong, ReadForm.width]
      obtain ⟨result, after⟩ := r.fetch path offset 8
      cases result <;> rfl
  | double =>
      simp only [ReadForm.step, Reader.step, Reader.readDouble, ReadForm.width]
      obtain ⟨result, after⟩ := r.fetch path offset 8
      cases result <;> rfl

end Outcomes

/-- **History determines every read.**  Take any history of a new reader over files in
memory, whatever the capacity of the buffer and the limit, and any read of a path, at
an offset or at the cursor.  The stream of every handle is at the position that is
recorded.  Over the limit the read is refused and touches nothing.  Otherwise it finds
the view of the handle, or that of the file which is opened now, or fails because there
is none.  It gives the span of the contents that were there when the handle was opened
if they cover it, and otherwise reaches their end. -/
theorem read_after_history (files : PathMap (List UInt8)) (config : ReaderConfig)
    (past : List Step) (path : String) (offset : Option Nat) (form : ReadForm) :
    let r := (Reader.new (MemoryStore.ofFiles files) config).after past.reverse
    let limit := config.maxReadLength
    let view? := viewAfter files limit path past
    let outcome := (r.step (form.step path offset)).1
    r.EveryHandle Handle.InStep ∧ r.isCached path = view?.isSome ∧
    (∀ view, view? = some view → OpenedWith files limit path past view.contents ∧
      LeftWith files limit path past view) ∧
    (form.Oversized limit → r.step (form.step path offset)
      = (.failed (.storage (.readTooLarge path form.width limit)), r)) ∧
    (¬ form.Oversized limit →
      match View.found? (contentsAfter files path past) view? with
      | none => outcome = .failed (.storage (.ioFailure path (.unknownFile path)))
      | some view =>
        let start := offset.getD view.cursor
        if form.width = 0 ∨ start + form.width ≤ view.contents.length then
          form.Decodes ((view.contents.drop start).take form.width) outcome
        else outcome = .failed (.storage (.ioFailure path .endOfFile))) := by
  intro r limit view? outcome
  have presents : Presents r _ _ := presents_after files config past
  have setup : r.config = config := Reader.config_after ..
  refine ⟨Reader.inStep_after _ config past.reverse, presents.isCached path,
    fun view h => ⟨openedWith_of_viewAfter files limit path h,
      leftWith_of_viewAfter files limit path h⟩, ?_, ?_⟩
  · intro oversized
    have beyond : form.Oversized r.config.maxReadLength := setup ▸ oversized
    have refused : r.step (form.step path offset) = _ := step_of_oversized beyond
    rwa [setup] at refused
  · intro allowed
    have made : outcome = .ofRead form.decode (r.fetch path offset form.width).1 :=
      outcome_of_allowed (setup ▸ allowed)
    split
    · next missing =>
        have failed := (presents.fetch_missing missing ⟨offset, form.width⟩).1
        rw [made, failed]
        rfl
    · next view found =>
        have given := (presents.fetch_found found ⟨offset, form.width⟩).1
        intro start
        split
        · next covered =>
            rw [View.slice_of_covers (g := ⟨offset, form.width⟩) covered] at given
            rw [made, given]
            refine ReadForm.decodes_decode ?_
            rw [List.length_take, List.length_drop]
            omega
        · next short =>
            rw [View.slice_of_not_covers (g := ⟨offset, form.width⟩) short] at given
            rw [made, given]
            rfl

end ScanFilter
