import ScanFilter.Proofs.Storage.Steps
/-!
# Which paths a reader opens

A reader asks the store for a path when a step reads it and it has no handle.  What
the store gives is kept until the reader finishes; when it refuses, nothing is kept.
So the paths with a handle are those that some step opened since the last finish, and
in memory the count of the store tells how often it was asked.

* `isCached_step`, `isCached_after` — the paths with a handle after a step and after
  a run;
* `openCount_step`, `openCount_after` — the count of a store in memory after both;
* `cache_accounting` — handles and openings of any run of a new reader over files in
  memory.
-/

namespace ScanFilter.Reader

section AnyStore

variable {σ : Type} [FileStore σ] {r : Reader σ} {s : Step}

/-- Whether a step that a reader takes opens a path: it reads the path, which has no
handle, and the store gives a file. -/
def Opens (r : Reader σ) (s : Step) (path : String) : Prop :=
  s.reading? r.config.maxReadLength = some path ∧ r.isCached path = false ∧
    ∃ source, (FileStore.openFile r.store path).1 = .ok source

/-- Whether a step of a run opens a path and no later step of it finishes. -/
def OpenedSinceFinish (r : Reader σ) (steps : List Step) (path : String) : Prop :=
  ∃ before s after, steps = before ++ s :: after ∧ Step.finish ∉ after ∧
    (r.after before).Opens s path

/-- The paths that a run of steps asks the store to open, in turn. -/
def askings (r : Reader σ) : List Step → List String
  | [] => []
  | s :: steps => (r.asked? s).toList ++ (r.step s).2.askings steps

theorem not_opens_finish (path : String) : ¬ r.Opens .finish path := by
  rintro ⟨reading, _⟩
  cases reading

/-- After a step that does not finish the paths with a handle are those from before
and the one that it opened. -/
theorem isCached_step (hf : s ≠ .finish) (q : String) :
    (r.step s).2.isCached q = true ↔ r.isCached q = true ∨ r.Opens s q := by
  unfold Opens
  cases hr : s.reading? r.config.maxReadLength with
  | none =>
      rw [step_of_not_reading hr hf]
      simp [isCached]
  | some path =>
      rw [(step_sameCache hr).isCached]
      cases hc : r.isCached path with
      | true =>
          rw [acquire_of_isCached hc]
          refine ⟨.inl, ?_⟩
          rintro (held | ⟨same, missing, _⟩)
          · exact held
          · cases same
            rw [hc] at missing
            cases missing
      | false =>
          rw [(acquire_of_not_isCached hc).2.2 q]
          constructor
          · rintro (held | ⟨rfl, opened⟩)
            · exact .inl held
            · exact .inr ⟨rfl, hc, opened⟩
          · rintro (held | ⟨same, _, opened⟩)
            · exact .inl held
            · cases same
              exact .inr ⟨rfl, opened⟩

/-- The opening of a run is by its first step or in the rest of it. -/
theorem openedSinceFinish_cons (r : Reader σ) (s : Step) (steps : List Step)
    (path : String) :
    r.OpenedSinceFinish (s :: steps) path ↔
      (Step.finish ∉ steps ∧ r.Opens s path) ∨
        (r.step s).2.OpenedSinceFinish steps path := by
  constructor
  · rintro ⟨before, t, after, parts, unfinished, opens⟩
    cases before with
    | nil =>
        obtain ⟨rfl, rfl⟩ := List.cons.inj parts
        exact .inl ⟨unfinished, opens⟩
    | cons first before =>
        obtain ⟨rfl, rest⟩ := List.cons.inj parts
        exact .inr ⟨before, t, after, rest, unfinished, opens⟩
  · rintro (⟨unfinished, opens⟩ | ⟨before, t, after, rfl, unfinished, opens⟩)
    · exact ⟨[], s, steps, rfl, unfinished, opens⟩
    · exact ⟨s :: before, t, after, rfl, unfinished, opens⟩

/-- After a run a path has a handle if it had one and the run did not finish, or if a
step of the run opened it since the last finish. -/
theorem isCached_after (r : Reader σ) (steps : List Step) (path : String) :
    (r.after steps).isCached path = true ↔
      (r.isCached path = true ∧ Step.finish ∉ steps) ∨
        r.OpenedSinceFinish steps path := by
  induction steps generalizing r with
  | nil =>
      have unopened : ¬ r.OpenedSinceFinish [] path := by
        rintro ⟨before, s, after, parts, _⟩
        simp at parts
      simp [after, unopened]
  | cons s steps ih =>
      have rest := ih (r.step s).2
      rw [openedSinceFinish_cons]
      refine rest.trans ?_
      -- A first step that finishes leaves no handle, so only the rest of the run counts.
      by_cases hf : s = .finish
      · subst hf
        have dropped : (r.step .finish).2.isCached path = false := rfl
        simp [dropped, not_opens_finish]
      · rw [isCached_step hf, List.mem_cons]
        have other : Step.finish ≠ s := Ne.symm hf
        simp only [other, false_or]
        constructor
        · rintro (⟨held | opens, unfinished⟩ | later)
          · exact .inl ⟨held, unfinished⟩
          · exact .inr (.inl ⟨unfinished, opens⟩)
          · exact .inr (.inr later)
        · rintro (⟨held, unfinished⟩ | ⟨unfinished, opens⟩ | later)
          · exact .inl ⟨.inl held, unfinished⟩
          · exact .inl ⟨.inr opens, unfinished⟩
          · exact .inr later

/-- Between two steps that open one path the reader finishes. -/
theorem opens_once (r : Reader σ) {before between : List Step} {s t : Step}
    {path : String} (hs : (r.after before).Opens s path)
    (unfinished : Step.finish ∉ between) :
    ¬ (r.after (before ++ s :: between)).Opens t path := by
  intro ht
  have hf : s ≠ .finish := fun same => not_opens_finish path (same ▸ hs)
  have held : ((r.after before).step s).2.isCached path = true :=
    (isCached_step hf path).mpr (.inr hs)
  have still : (r.after (before ++ s :: between)).isCached path = true := by
    rw [after_append]
    exact (isCached_after _ between path).mpr (.inl ⟨held, unfinished⟩)
  rw [ht.2.1] at still
  cases still

/-- A read whose path the store refuses leaves no handle for it. -/
theorem isCached_of_refused {path : String}
    (hr : s.reading? r.config.maxReadLength = some path) (hc : r.isCached path = false)
    (refused : ∀ source, (FileStore.openFile r.store path).1 ≠ .ok source) :
    (r.step s).2.isCached path = false := by
  have hf : s ≠ .finish := by
    rintro rfl
    cases hr
  rw [← Bool.not_eq_true, isCached_step hf]
  rintro (held | ⟨_, _, source, opened⟩)
  · rw [hc] at held
    cases held
  · exact refused source opened

end AnyStore

section Memory

variable {r : Reader MemoryStore}

/-- A step adds one to the count when it asks the store for a path. -/
theorem openCount_step (h : r.store.refusals = .empty) (s : Step) :
    (r.step s).2.store.openCount
      = r.store.openCount + if (r.asked? s).isSome then 1 else 0 := by
  rw [store_step, (write_memory _ s).2]
  cases r.asked? s with
  | none => rfl
  | some path =>
      have counted := r.store.openFile_count path
      rw [h] at counted
      exact counted

/-- A run adds to the count what it asks for. -/
theorem openCount_after (h : r.store.refusals = .empty) (steps : List Step) :
    (r.after steps).store.openCount = r.store.openCount + (r.askings steps).length := by
  induction steps generalizing r with
  | nil => rfl
  | cons s steps ih =>
      have first := openCount_step h s
      have rest := ih ((refusals_step r s).trans h)
      have total : (r.after (s :: steps)).store.openCount
          = ((r.step s).2.after steps).store.openCount := rfl
      rw [total, rest, first, askings, List.length_append]
      cases r.asked? s with
      | none => simp
      | some path =>
          simp only [Option.isSome_some, if_true, Option.toList_some, List.length_singleton]
          omega

theorem refusals_after (h : r.store.refusals = .empty) (steps : List Step) :
    (r.after steps).store.refusals = .empty := by
  induction steps generalizing r with
  | nil => exact h
  | cons s steps ih => exact ih ((refusals_step r s).trans h)

/-- **Handles and openings over a run.**  After any run of a new reader over files in
memory, a path has a handle just if a step opened it since the last finish, and the
handles are as many as these paths.  The count of the store is the number of times
that a step asked it: once for each file opened past the handles, and once for each
step that reads a path without a handle.  Between two finishes no path is opened
twice, and a path that the store refuses gets no handle. -/
theorem cache_accounting (files : PathMap (List UInt8)) (config : ReaderConfig)
    (steps : List Step) :
    let fresh := Reader.new (MemoryStore.ofFiles files) config
    let r := fresh.after steps
    (∀ path, r.isCached path = true ↔ fresh.OpenedSinceFinish steps path) ∧
    (∃ paths : List String, paths.Nodup ∧
      (∀ path, path ∈ paths ↔ fresh.OpenedSinceFinish steps path) ∧
      r.handleCount = paths.length) ∧
    r.store.openCount = (fresh.askings steps).length ∧
    (∀ s, (r.step s).2.store.openCount
      = r.store.openCount + if (r.asked? s).isSome then 1 else 0) ∧
    (∀ path before s between t after, steps = before ++ s :: between ++ t :: after →
      Step.finish ∉ between → (fresh.after before).Opens s path →
      ¬ (fresh.after (before ++ s :: between)).Opens t path) ∧
    (∀ s path, s.reading? config.maxReadLength = some path → r.isCached path = false →
      (∀ source, (r.store.openFile path).1 ≠ .ok source) →
      (r.step s).2.isCached path = false) := by
  intro fresh r
  have cached : ∀ path, r.isCached path = true ↔ fresh.OpenedSinceFinish steps path := by
    intro path
    have missing : fresh.isCached path = false := rfl
    rw [isCached_after, missing]
    simp
  refine ⟨cached, ⟨r.slots.paths, r.slots.nodup, ?_, ?_⟩, ?_, ?_, ?_, ?_⟩
  · intro path
    rw [PathMap.mem_paths]
    exact cached path
  · exact (List.length_map ..).symm
  · have count := openCount_after (r := fresh) rfl steps
    rwa [show fresh.store.openCount = 0 from rfl, Nat.zero_add] at count
  · exact openCount_step (refusals_after rfl steps)
  · intro path before s between t after _ unfinished opens
    exact opens_once fresh opens unfinished
  · intro s path hr
    have limit : r.config = config := config_after fresh steps
    rw [← limit] at hr
    exact isCached_of_refused hr

end Memory

end ScanFilter.Reader
