import ScanFilter.Proofs.Storage.History
import ScanFilter.Proofs.Storage.Observation
/-!
# Steps that can be left out of a run

Two kinds of steps leave no trace.  A read from the cursor on that fails although its
path has a handle has taken bytes from its stream and made it go back; a read of more
bytes than the limit allows has touched nothing.  Either of them leaves the reader
a twin of what it was, so that the other steps show the same without it.  And a step
that names another path leaves what is seen of a path: its contents, its view, and with
them the outcome of every step that concerns it.

* `Unnoticed.inversion`, `Twins.skip` — what unnoticed reads are, and that they leave a
  twin;
* `observations_without_unnoticed` — a run without some of them;
* `AgreeAt.skip_other` — what the steps of other paths leave;
* `seenAt_without_others` — a run without some of them.
-/

namespace ScanFilter

/-- The members of a list at the positions that are kept. -/
def kept {α : Type} (keep : Nat → Bool) : List α → List α
  | [] => []
  | a :: as =>
    if keep 0 then a :: kept (fun i => keep (i + 1)) as else kept (fun i => keep (i + 1)) as

namespace Step

/-- Whether a step reads a path from the cursor on: bytes, a number, or a field. -/
def FromCursor (path : String) (s : Step) : Prop :=
  (∃ form : ReadForm, s = form.step path none) ∨ ∃ kind, s = .field path none kind

/-- Whether a step concerns a path: it names the path, or it finishes. -/
def concerns (path : String) (s : Step) : Bool := s.path?.all (· == path)

/-- A step that reads changes no file. -/
theorem nextContents_of_reading {s : Step} {limit : Nat} {path : String}
    (h : s.reading? limit = some path) (q : String) (now : Option (List UInt8)) :
    s.nextContents q now = now := by
  cases s with
  | insert p contents => cases h
  | remove p => cases h
  | _ => rfl

end Step

namespace Reader

variable {r t : Reader MemoryStore} {s : Step} {path : String} {openings : Nat}

/-! ## Reads that fail -/

/-- Whether a step goes unnoticed: it is a read from the cursor on that fails although
its path has a handle, or a read of bytes that is refused because they are too many. -/
def Unnoticed (r : Reader MemoryStore) (s : Step) : Prop :=
  (∃ path error, s.FromCursor path ∧ r.isCached path = true ∧
    (r.step s).1 = .failed error) ∨
  ∃ path offset length limit, s = .bytes path offset length ∧
    (r.step s).1 = .failed (.storage (.readTooLarge path length limit))

/-- What makes something of all bytes that are found fails only when none are. -/
theorem error_of_ofRead {α : Type} {decode : α → Outcome} {result : Except StorageError α}
    {error : ProbeError} (plain : ∀ a, decode a ≠ .failed error)
    (failed : Outcome.ofRead decode result = .failed error) : ∃ e, result = .error e := by
  cases result with
  | ok a => exact absurd failed (plain a)
  | error e => exact ⟨e, rfl⟩

/-- A span that cannot be read is not refused for its width, which is looked at before. -/
theorem fetch_ne_tooLarge {offset : Option Nat} {width : Nat} (p : String)
    (requested limit : Nat) :
    (r.fetch path offset width).1 ≠ .error (.readTooLarge p requested limit) := by
  intro refused
  unfold fetch at refused
  split at refused
  · cases refused
  · next handle after _ =>
      generalize Handle.read _ _ handle offset width = given at refused
      obtain ⟨result, moved⟩ := given
      cases result <;> cases refused

/-- Bytes are refused for their number when they are more than the limit allows. -/
theorem oversized_of_tooLarge {p : String} {offset : Option Nat}
    {length requested limit : Nat}
    (h : (r.step (.bytes path offset length)).1
      = .failed (.storage (.readTooLarge p requested limit))) :
    r.config.maxReadLength < length := by
  by_contra small
  have allowed : ¬ (ReadForm.bytes length).Oversized r.config.maxReadLength := small
  have made : (r.step (.bytes path offset length)).1
      = .ofRead .bytes (r.fetch path offset length).1 := outcome_of_allowed allowed
  rw [made] at h
  cases fetched : (r.fetch path offset length).1 with
  | ok found =>
      rw [fetched] at h
      cases h
  | error e =>
      rw [fetched] at h
      cases h
      exact fetch_ne_tooLarge p requested limit fetched

/-- Bytes over the limit are no span of a file. -/
theorem spans_of_oversized {limit length : Nat} (h : limit < length) (path : String)
    (offset : Option Nat) : (Step.bytes path offset length).spans limit = [] :=
  if_pos h

/-- A read within the limit is that of one span. -/
theorem spans_of_allowed {limit : Nat} {form : ReadForm} (h : ¬ form.Oversized limit)
    (path : String) (offset : Option Nat) :
    (form.step path offset).spans limit = [⟨offset, form.width⟩] := by
  cases form with
  | bytes length => exact if_neg h
  | _ => rfl

/-- What an unnoticed step is: the read of bytes over the limit, or the read of one
span, from the cursor on, that its handle does not cover. -/
theorem Unnoticed.inversion (h : r.Unnoticed s) :
    (∃ path offset length, s = .bytes path offset length ∧
      r.config.maxReadLength < length) ∨
    ∃ path width e, s.path? = some path ∧ r.isCached path = true ∧
      s.spans r.config.maxReadLength = [⟨none, width⟩] ∧
      (r.fetch path none width).1 = .error e := by
  obtain ⟨path, error, reads, cached, failed⟩ | ⟨path, offset, length, limit, rfl, refused⟩ := h
  · obtain ⟨form, rfl⟩ | ⟨kind, rfl⟩ := reads
    · by_cases tooMany : form.Oversized r.config.maxReadLength
      · cases form with
        | bytes length => exact .inl ⟨path, none, length, rfl, tooMany⟩
        | _ => cases tooMany
      · rw [outcome_of_allowed tooMany] at failed
        have plain : ∀ found, form.decode found ≠ .failed error := by
          intro found
          cases form <;> exact Outcome.noConfusion
        obtain ⟨e, short⟩ := error_of_ofRead plain failed
        refine .inr ⟨path, form.width, e, ?_, cached, spans_of_allowed tooMany path none, short⟩
        cases form <;> rfl
    · simp only [Reader.step, readField_eq] at failed
      obtain ⟨e, short⟩ := error_of_ofRead (fun _ => Outcome.noConfusion) failed
      refine .inr ⟨path, kind.width, ?_⟩
      cases fetched : (r.fetch path none kind.width).1 with
      | ok found =>
          rw [fetched] at short
          cases short
      | error e => exact ⟨e, rfl, cached, rfl, rfl⟩
  · exact .inl ⟨path, offset, length, rfl, oversized_of_tooLarge refused⟩

/-- A read from the cursor on that a handle does not cover leaves the view of its path. -/
theorem stays_of_error {contents : String → Option (List UInt8)}
    {views : String → Option View} {width : Nat} {e : StorageError}
    (h : Presents r contents views) (cached : r.isCached path = true)
    (short : (r.fetch path none width).1 = .error e) :
    ∃ view, views path = some view ∧ view.advance ⟨none, width⟩ = view := by
  have handle := h.handles path
  rw [r.isCached_eq] at cached
  obtain ⟨held, hheld⟩ := Option.isSome_iff_exists.mp cached
  rw [hheld] at handle
  cases hv : views path with
  | none =>
      rw [hv] at handle
      cases handle
  | some view =>
      refine ⟨view, rfl, ?_⟩
      have found : View.found? (contents path) (views path) = some view := by
        rw [hv]
        rfl
      have given := (h.fetch_found found ⟨none, width⟩).1
      have uncovered : ¬ view.Covers ⟨none, width⟩ := by
        intro covered
        rw [View.slice_of_covers covered, short] at given
        cases given
      rw [View.advance, if_neg uncovered]
      rfl

/-- An unnoticed step asks the store for nothing. -/
theorem Unnoticed.asked? (h : r.Unnoticed s) : r.asked? s = none := by
  unfold Reader.asked? Step.reading?
  obtain ⟨p, offset, length, rfl, oversized⟩ | ⟨p, width, e, names, cached, spans, short⟩ :=
    h.inversion
  · rw [spans_of_oversized oversized]
    rfl
  · rw [spans, names]
    exact if_pos cached

/-- An unnoticed step leaves the contents and the view of every path. -/
theorem Unnoticed.still (h : r.Unnoticed s) (path : String)
    {contents : String → Option (List UInt8)} {views : String → Option View}
    (presents : Presents r contents views) :
    s.nextContents path (contents path) = contents path ∧
    s.nextView r.config.maxReadLength path (contents path) (views path) = views path := by
  obtain ⟨p, offset, length, rfl, oversized⟩ | ⟨p, width, e, names, cached, spans, short⟩ :=
    h.inversion
  · refine ⟨rfl, ?_⟩
    rw [Step.nextView_of_ne_finish Step.noConfusion, Step.reading?, spans_of_oversized oversized]
    rfl
  · have reading := Step.reading?_of_single spans names
    have unfinished : s ≠ .finish := by
      rintro rfl
      cases names
    refine ⟨Step.nextContents_of_reading reading .., ?_⟩
    rw [Step.nextView_of_ne_finish unfinished, reading, spans]
    by_cases here : p = path
    · subst here
      obtain ⟨view, hv, stays⟩ := stays_of_error presents cached short
      rw [if_pos rfl, hv]
      exact congrArg some ((view.advanceAll_single _).trans stays)
    · exact if_neg fun same => here (Option.some.inj same)

/-- An unnoticed step leaves a twin of the reader. -/
theorem Twins.skip (h : Twins openings r t) (unnoticed : r.Unnoticed s) :
    Twins openings (r.step s).2 t := by
  refine ⟨(config_step r s).trans h.setup, fun path => ?_, ?_⟩
  · exact (h.agree path).skip fun _ _ presents => unnoticed.still path presents
  · rw [openCount_step (h.agree "").refusals.1, unnoticed.asked?]
    exact h.openCount

/-- What is shown by the steps of a run that are kept is what they show to a twin that
takes them alone, if the others go unnoticed. -/
theorem Twins.observations_kept (h : Twins 0 r t) (steps : List Step) (keep : Nat → Bool)
    (unnoticed : ∀ before s later, steps = before ++ s :: later →
      keep before.length = false → (r.after before).Unnoticed s) :
    kept keep (r.observations steps) = t.observations (kept keep steps) := by
  induction steps generalizing r t keep with
  | nil => rfl
  | cons s steps ih =>
      have rest : ∀ before u later, steps = before ++ u :: later →
          keep (before.length + 1) = false → ((r.step s).2.after before).Unnoticed u := by
        intro before u later parts dropped
        exact unnoticed (s :: before) u later (congrArg (s :: ·) parts) dropped
      change kept keep (.ofStep (r.step s) :: (r.step s).2.observations steps) = _
      cases first : keep 0 with
      | false =>
          have skipped := h.skip (unnoticed [] s steps rfl first)
          rw [kept, kept, first, if_neg Bool.false_ne_true, if_neg Bool.false_ne_true]
          exact ih skipped _ rest
      | true =>
          rw [kept, kept, first, if_pos rfl, if_pos rfl, h.ofStep s]
          exact congrArg (_ :: ·) (ih (h.step s) _ rest)

/-- **Failed reads are invisible.**  Take any run of a new reader over files in memory,
and leave out any of the reads from the cursor on that fail on a path with a handle, and
of the reads of bytes that are refused because they are too many.  The steps that are
kept show what they showed in the whole run: their outcomes, the number of handles, the
paths that have one, and the count of openings. -/
theorem observations_without_unnoticed (files : PathMap (List UInt8)) (config : ReaderConfig)
    (steps : List Step) (keep : Nat → Bool)
    (h : ∀ before s later, steps = before ++ s :: later → keep before.length = false →
      ((Reader.new (MemoryStore.ofFiles files) config).after before).Unnoticed s) :
    kept keep ((Reader.new (MemoryStore.ofFiles files) config).observations steps)
      = (Reader.new (MemoryStore.ofFiles files) config).observations (kept keep steps) := by
  have presents := presents_new files config
  have self : Twins 0 (Reader.new (MemoryStore.ofFiles files) config)
      (Reader.new (MemoryStore.ofFiles files) config) :=
    ⟨rfl, fun path => ⟨_, _, _, _, presents, presents, rfl, rfl⟩, rfl⟩
  exact self.observations_kept steps keep h

/-- Five bytes under a path, and nothing else. -/
def fiveBytes : PathMap (List UInt8) := .ofList [("a", [1, 2, 3, 4, 5])]

/-- A read of eight bytes where four are left, between two that are within the file. -/
def wideThenNarrow : List Step := [.bytes "a" none 1, .long "a" none, .int "a" none]

/-- Without the read of eight bytes that fails the others show the same. -/
theorem observations_without_unnoticed_wideThenNarrow :
    (((Reader.new (MemoryStore.ofFiles fiveBytes) {}).after [.bytes "a" none 1]).Unnoticed
      (.long "a" none)) ∧
    kept (· != 1) ((Reader.new (MemoryStore.ofFiles fiveBytes) {}).observations wideThenNarrow)
      = (Reader.new (MemoryStore.ofFiles fiveBytes) {}).observations
          [.bytes "a" none 1, .int "a" none] := by
  have unnoticed : ((Reader.new (MemoryStore.ofFiles fiveBytes) {}).after
      [.bytes "a" none 1]).Unnoticed (.long "a" none) := by
    have found : View.found? (contentsAfter fiveBytes "a" [.bytes "a" none 1])
        (viewAfter fiveBytes 0x4000000 "a" [.bytes "a" none 1])
          = some ⟨[1, 2, 3, 4, 5], 1⟩ := rfl
    have missed := ((presents_after fiveBytes {} _).fetch_found found ⟨none, 8⟩).1
    rw [View.slice_of_not_covers (by decide)] at missed
    have failed := (outcome_of_allowed id).trans
      (congrArg (Outcome.ofRead ReadForm.long.decode) missed)
    exact .inl ⟨"a", _, .inl ⟨.long, rfl⟩, rfl, failed⟩
  refine ⟨unnoticed, observations_without_unnoticed fiveBytes {} wideThenNarrow (· != 1) ?_⟩
  intro before s later parts dropped
  have second : before.length = 1 := by simpa using dropped
  obtain ⟨first, rfl⟩ := List.length_eq_one_iff.mp second
  cases parts
  exact unnoticed

/-! ## Steps of other paths -/

/-- What is seen of a path in a run: the outcomes of the steps that concern it, and after
each of them whether it has a handle. -/
def seenAt (r : Reader MemoryStore) (path : String) (steps : List Step) :
    List (Outcome × Bool) :=
  ((steps.zip (r.run steps)).filter (·.1.concerns path)).map fun x =>
    (x.2.1, x.2.2.isCached path)

theorem seenAt_cons_of_concerns (hs : s.concerns path = true) (steps : List Step) :
    r.seenAt path (s :: steps)
      = ((r.step s).1, (r.step s).2.isCached path) :: (r.step s).2.seenAt path steps := by
  simp [seenAt, run, hs]

theorem seenAt_cons_of_not (hs : s.concerns path = false) (steps : List Step) :
    r.seenAt path (s :: steps) = (r.step s).2.seenAt path steps := by
  simp [seenAt, run, hs]

/-- A step that does not concern a path leaves readers that agree on it. -/
theorem AgreeAt.skip_other (h : AgreeAt path r t) (hs : s.concerns path = false) :
    AgreeAt path (r.step s).2 t := by
  have unfinished : s ≠ .finish := by
    rintro rfl
    cases hs
  have other : s.path? ≠ some path := by
    intro named
    simp [Step.concerns, named] at hs
  have unread : s.reading? r.config.maxReadLength ≠ some path := by
    unfold Step.reading?
    split
    · exact (Option.some_ne_none path).symm
    · exact other
  refine h.skip fun contents views _ => ⟨?_, ?_⟩
  · cases s with
    | insert p bytes => exact if_neg fun same => other (congrArg some same.symm)
    | remove p => exact if_neg fun same => other (congrArg some same.symm)
    | _ => rfl
  · rw [Step.nextView_of_ne_finish unfinished, if_neg unread]

/-- A step that concerns a path has the same outcome for readers that agree on it. -/
theorem AgreeAt.outcome_of_concerns (h : AgreeAt path r t) (setup : r.config = t.config)
    (hs : s.concerns path = true) : (r.step s).1 = (t.step s).1 := by
  cases named : s.path? with
  | some p =>
      have same : p = path := by simpa [Step.concerns, named] using hs
      exact h.outcome setup (named.trans (congrArg some same))
  | none =>
      cases Step.eq_finish_of_path? named
      rfl

/-- Readers that agree on a path and are set up alike see the same of it, if the one
takes at least those steps of the other that concern it. -/
theorem AgreeAt.seenAt_filter (h : AgreeAt path r t) (setup : r.config = t.config)
    {keep : Step → Bool} (all : ∀ s, s.concerns path = true → keep s = true)
    (steps : List Step) : r.seenAt path steps = t.seenAt path (steps.filter keep) := by
  induction steps generalizing r t with
  | nil => rfl
  | cons s steps ih =>
      have left : (r.step s).2.config = r.config := config_step r s
      have right : (t.step s).2.config = t.config := config_step t s
      have both := ih (h.step setup s) (left.trans (setup.trans right.symm))
      cases hs : s.concerns path with
      | true =>
          rw [List.filter_cons_of_pos (all s hs), seenAt_cons_of_concerns hs,
            seenAt_cons_of_concerns hs, h.outcome_of_concerns setup hs,
            (h.step setup s).isCached, both]
      | false =>
          rw [seenAt_cons_of_not hs]
          cases hk : keep s with
          | true => rw [List.filter_cons_of_pos hk, seenAt_cons_of_not hs, both]
          | false =>
              rw [List.filter_cons_of_neg (by simp [hk])]
              exact ih (h.skip_other hs) (left.trans setup)

/-- **Paths do not interfere.**  Take any run of a new reader over files in memory and
any path, and leave out any steps that name other paths, whatever their outcomes were,
up to all of them.  The steps that name the path, and those that finish, have the same
outcomes as in the whole run, and after each of them the path has a handle or not as it
had. -/
theorem seenAt_without_others (files : PathMap (List UInt8)) (config : ReaderConfig)
    (path : String) (keep : Step → Bool)
    (all : ∀ s, s.concerns path = true → keep s = true) (steps : List Step) :
    (Reader.new (MemoryStore.ofFiles files) config).seenAt path steps
      = (Reader.new (MemoryStore.ofFiles files) config).seenAt path (steps.filter keep) := by
  have presents := presents_new files config
  have self : AgreeAt path (Reader.new (MemoryStore.ofFiles files) config)
      (Reader.new (MemoryStore.ofFiles files) config) :=
    ⟨_, _, _, _, presents, presents, rfl, rfl⟩
  exact self.seenAt_filter rfl all steps

/-- Reads of one path among those of another, which is missing at first, then too short,
and then gone. -/
def interleaved : List Step :=
  [.int "a" none, .long "b" none, .insert "b" [7], .int "b" none, .int "a" none,
    .remove "b", .finish, .bytes "b" (some 9) 2, .bytes "a" none 2]

/-- Without the steps of the other path the same is seen of the one. -/
theorem seenAt_without_others_interleaved :
    (∀ s, Step.concerns "a" s = true → Step.concerns "a" s = true) ∧
    (Reader.new (MemoryStore.ofFiles fiveBytes) {}).seenAt "a" interleaved
      = (Reader.new (MemoryStore.ofFiles fiveBytes) {}).seenAt "a"
          [.int "a" none, .int "a" none, .finish, .bytes "a" none 2] :=
  ⟨fun _ h => h, seenAt_without_others fiveBytes {} "a" (Step.concerns "a") (fun _ h => h)
    interleaved⟩

end Reader

end ScanFilter
