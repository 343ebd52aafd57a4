import ScanFilter.Proofs.Storage.Agreement
/-!
# What can be observed of a run

A step over files in memory shows its outcome, and then how many handles there are,
which paths have one, and how often a file was asked for.  Two readers that are set up
alike and agree on every path cannot be told apart by what they show from then on, but
for the openings that were counted before; such readers are **twins**.  A reader that
finished is the twin of a new one over the files of the moment.

* `Twins.ofStep_eq` — steps with one outcome that leave twins show the same;
* `Twins.step`, `Twins.ofStep` — twins take the same step and show the same;
* `Twins.observations` — what twins show of a run;
* `finish_as_new` — a reader that finished, and a new one.
-/

namespace ScanFilter

/-- What a step shows: its outcome, and then the number of handles, the paths that have
one, and the count of openings. -/
structure Observation where
  outcome : Outcome
  handleCount : Nat
  isCached : String → Bool
  openCount : Nat

namespace Observation

/-- What a step shows that had some outcome and left some reader. -/
def ofStep (result : Outcome × Reader MemoryStore) : Observation :=
  ⟨result.1, result.2.handleCount, result.2.isCached, result.2.store.openCount⟩

/-- The same with so many more openings. -/
def plus (openings : Nat) (o : Observation) : Observation :=
  { o with openCount := o.openCount + openings }

end Observation

/-- The one step that names no path is the one that finishes. -/
theorem Step.eq_finish_of_path? {s : Step} (h : s.path? = none) : s = .finish := by
  cases s with
  | finish => rfl
  | _ => cases h

namespace Reader

/-- What the steps of a run show, one after the other. -/
def observations (r : Reader MemoryStore) (steps : List Step) : List Observation :=
  (r.run steps).map Observation.ofStep

/-- Whether two readers are set up alike and agree on every path, the first one with so
many more openings counted. -/
structure Twins (openings : Nat) (r t : Reader MemoryStore) : Prop where
  setup : r.config = t.config
  agree : ∀ path, AgreeAt path r t
  openCount : r.store.openCount = t.store.openCount + openings

variable {openings : Nat} {r t : Reader MemoryStore}

/-- Agreeing readers have stores that refuse nothing. -/
theorem AgreeAt.refusals {path : String} (h : AgreeAt path r t) :
    r.store.refusals = .empty ∧ t.store.refusals = .empty := by
  obtain ⟨_, _, _, _, hr, ht, _⟩ := h
  exact ⟨PathMap.eq_empty_of_get? hr.unrefused, PathMap.eq_empty_of_get? ht.unrefused⟩

/-- A step has the same outcome for twins. -/
theorem Twins.outcome (h : Twins openings r t) (s : Step) : (r.step s).1 = (t.step s).1 := by
  cases hs : s.path? with
  | some path => exact (h.agree path).outcome h.setup hs
  | none =>
      cases Step.eq_finish_of_path? hs
      rfl

/-- After a step twins are twins. -/
theorem Twins.step (h : Twins openings r t) (s : Step) :
    Twins openings (r.step s).2 (t.step s).2 := by
  refine ⟨?_, fun path => (h.agree path).step h.setup s, ?_⟩
  · rw [config_step, config_step, h.setup]
  · obtain ⟨left, right⟩ := (h.agree "").refusals
    rw [openCount_step left, openCount_step right, asked?_eq h.agree h.setup, h.openCount]
    omega

/-- Steps with one outcome that leave twins show the same, but for the openings from
before. -/
theorem Twins.ofStep_eq {left right : Outcome × Reader MemoryStore}
    (outcome : left.1 = right.1) (h : Twins openings left.2 right.2) :
    Observation.ofStep left = (Observation.ofStep right).plus openings := by
  have cached : left.2.isCached = right.2.isCached :=
    funext fun path => (h.agree path).isCached
  unfold Observation.ofStep Observation.plus
  rw [outcome, handleCount_eq h.agree, cached, h.openCount]

/-- A step shows the same of twins, but for the openings from before. -/
theorem Twins.ofStep (h : Twins openings r t) (s : Step) :
    Observation.ofStep (r.step s) = (Observation.ofStep (t.step s)).plus openings :=
  Twins.ofStep_eq (h.outcome s) (h.step s)

/-- A run shows the same of twins, but for the openings from before. -/
theorem Twins.observations (h : Twins openings r t) (steps : List Step) :
    r.observations steps = (t.observations steps).map (.plus openings) := by
  induction steps generalizing r t with
  | nil => rfl
  | cons s steps ih =>
      have first := h.ofStep s
      have rest := ih (h.step s)
      exact congrArg₂ List.cons first rest

/-- A new reader presents its files and no view. -/
theorem presents_new (files : PathMap (List UInt8)) (config : ReaderConfig) :
    Presents (Reader.new (MemoryStore.ofFiles files) config) (files.get? ·) fun _ => none :=
  ⟨fun _ => rfl, fun _ => rfl, fun _ => .none⟩

/-- A reader that finished presents the files of the moment and no view. -/
theorem presents_finish (h : r.store.refusals = .empty) :
    Presents r.finish (r.store.files.get? ·) fun _ => none := by
  refine ⟨fun _ => rfl, fun path => ?_, fun _ => .none⟩
  change r.store.refusals.get? path = none
  rw [h]
  rfl

/-- **Finishing makes a reader new.**  After any run of a new reader over files in
memory, finish it and run any steps: they show what they show of a new reader of the
same set-up over the files of the moment, with the openings from before added to its
count.  The finished reader presents these files and no view of any, so that no cursor,
no contents from before and no handle is left, and finishing it again changes nothing. -/
theorem finish_as_new (files : PathMap (List UInt8)) (config : ReaderConfig)
    (past more : List Step) :
    let r := (Reader.new (MemoryStore.ofFiles files) config).after past
    let new := Reader.new (MemoryStore.ofFiles r.store.files) config
    r.finish.observations more = (new.observations more).map (.plus r.store.openCount) ∧
    Presents r.finish (r.store.files.get? ·) (fun _ => none) ∧
    (∀ path, r.finish.isCached path = false) ∧ r.finish.handleCount = 0 ∧
    r.step .finish = (.done, r.finish) ∧ r.finish.step .finish = (.done, r.finish) := by
  intro r new
  have finished : Presents r.finish (r.store.files.get? ·) (fun _ => none) :=
    presents_finish (refusals_after rfl past)
  have twins : Twins r.store.openCount r.finish new := by
    refine ⟨config_after .., fun path => ?_, (Nat.zero_add _).symm⟩
    exact ⟨_, _, _, _, finished, presents_new r.store.files config, rfl, rfl⟩
  exact ⟨twins.observations more, finished, fun _ => rfl, rfl, rfl, rfl⟩

end Reader

end ScanFilter
