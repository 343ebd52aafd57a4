import ScanFilter.Proofs.Storage.Openings
import ScanFilter.Proofs.Storage.View
/-!
# Readers that agree on a path

Two readers over files in memory **agree on a path** when they present the same contents
and the same view of it.  A step that names the path then gives the same outcome for
both, whatever they hold of other paths and whatever the capacity of their buffers, and
they agree on it afterwards; so they do when one of them alone takes a step that leaves
the path as it is.

* `AgreeAt.fetch`, `AgreeAt.readFields` — reads of a path that two readers agree on;
* `AgreeAt.outcome`, `AgreeAt.step` — a step that both of them take;
* `AgreeAt.skip` — a step that one of them takes;
* `handleCount_eq`, `asked?_eq` — what follows from agreement on every path.
-/

namespace ScanFilter

/-- Maps with entries for the same paths have the same size. -/
theorem PathMap.size_eq_of_contains {α β : Type} {m : PathMap α} {n : PathMap β}
    (h : ∀ path, m.contains path = n.contains path) : m.size = n.size := by
  have same : m.paths.Perm n.paths := by
    refine (List.perm_ext_iff_of_nodup m.nodup n.nodup).mpr fun path => ?_
    change path ∈ m.paths ↔ path ∈ n.paths
    rw [mem_paths, mem_paths, h path]
  have count := same.length_eq
  unfold paths at count
  rwa [List.length_map, List.length_map] at count

namespace Reader

/-- Whether two readers present the same contents and the same view of a path. -/
def AgreeAt (path : String) (r t : Reader MemoryStore) : Prop :=
  ∃ contents views contents' views', Presents r contents views ∧
    Presents t contents' views' ∧ contents path = contents' path ∧ views path = views' path

variable {r t : Reader MemoryStore} {path : String} {s : Step}

theorem AgreeAt.isCached (h : AgreeAt path r t) : r.isCached path = t.isCached path := by
  obtain ⟨_, _, _, _, hr, ht, _, hv⟩ := h
  rw [hr.isCached, ht.isCached, hv]

/-- Both readers find the same span of the path, or fail to for the same reason. -/
theorem AgreeAt.fetch (h : AgreeAt path r t) (g : Span) :
    (r.fetch path g.offset g.width).1 = (t.fetch path g.offset g.width).1 ∧
    AgreeAt path (r.fetch path g.offset g.width).2 (t.fetch path g.offset g.width).2 := by
  obtain ⟨contents, views, contents', views', hr, ht, hc, hv⟩ := h
  have same : View.found? (contents path) (views path)
      = View.found? (contents' path) (views' path) := by rw [hc, hv]
  cases found : View.found? (contents path) (views path) with
  | none =>
      rw [found] at same
      obtain ⟨failed, left⟩ := hr.fetch_missing found g
      obtain ⟨failed', right⟩ := ht.fetch_missing same.symm g
      exact ⟨failed.trans failed'.symm, _, _, _, _, left, right, hc, hv⟩
  | some view =>
      rw [found] at same
      obtain ⟨given, left⟩ := hr.fetch_found found g
      obtain ⟨given', right⟩ := ht.fetch_found same.symm g
      refine ⟨given.trans given'.symm, _, _, _, _, left, right, hc, ?_⟩
      rw [Function.update_self, Function.update_self]

theorem AgreeAt.readField (h : AgreeAt path r t) (offset : Option Nat) (kind : FieldKind) :
    (r.readField path offset kind).1 = (t.readField path offset kind).1 ∧
    AgreeAt path (r.readField path offset kind).2 (t.readField path offset kind).2 := by
  obtain ⟨same, next⟩ := h.fetch ⟨offset, kind.width⟩
  rw [readField_eq, readField_eq]
  exact ⟨congrArg (Except.map kind.value) same, next⟩

/-- Both readers read the same row of fields, or fail to for the same reason. -/
theorem AgreeAt.readFields (h : AgreeAt path r t) (fields : List (FieldKind × Option Nat)) :
    (r.readFields path fields).1 = (t.readFields path fields).1 := by
  induction fields generalizing r t with
  | nil => rfl
  | cons field fields ih =>
      obtain ⟨kind, offset⟩ := field
      obtain ⟨same, next⟩ := h.readField offset kind
      rw [Reader.readFields, Reader.readFields]
      generalize r.readField path offset kind = left at same next ⊢
      generalize t.readField path offset kind = right at same next ⊢
      obtain ⟨result, r⟩ := left
      obtain ⟨result', t⟩ := right
      cases same
      cases result with
      | error e => rfl
      | ok v => exact congrArg (Except.map (v :: ·)) (ih next)

/-- Both stores open the same file for the path, or neither has one. -/
theorem AgreeAt.openFile (h : AgreeAt path r t) :
    (r.store.openFile path).1 = (t.store.openFile path).1 := by
  obtain ⟨contents, _, contents', _, hr, ht, hc, _⟩ := h
  have left := hr.files path
  have right := ht.files path
  rw [hc] at left
  cases file : contents' path with
  | none =>
      rw [file] at left right
      rw [MemoryStore.openFile_missing (hr.unrefused path) left,
        MemoryStore.openFile_missing (ht.unrefused path) right]
  | some bytes =>
      rw [file] at left right
      rw [MemoryStore.openFile_found (hr.unrefused path) left,
        MemoryStore.openFile_found (ht.unrefused path) right]

/-- A step that names the path has the same outcome for both readers. -/
theorem AgreeAt.outcome (h : AgreeAt path r t) (setup : r.config = t.config)
    (hs : s.path? = some path) : (r.step s).1 = (t.step s).1 := by
  cases s with
  | bytes p offset length =>
      cases hs
      simp only [Reader.step, readBytes, setup]
      split
      · rfl
      · exact congrArg (Outcome.ofRead .bytes) (h.fetch ⟨offset, length⟩).1
  | int p offset =>
      cases hs
      simp only [Reader.step, readInt, (h.fetch ⟨offset, 4⟩).1]
  | long p offset =>
      cases hs
      simp only [Reader.step, readLong, (h.fetch ⟨offset, 8⟩).1]
  | double p offset =>
      cases hs
      simp only [Reader.step, readDouble, (h.fetch ⟨offset, 8⟩).1]
  | field p offset kind =>
      cases hs
      simp only [Reader.step, (h.readField offset kind).1]
  | compare p offset kind op literal =>
      cases hs
      simp only [Reader.step, compareField_eq, (h.readField offset kind).1]
  | filter p fields filter =>
      cases hs
      simp only [Reader.step, filterFields_eq, h.readFields fields]
  | finish => cases hs
  | insert p bytes => rfl
  | insertDirectory p => rfl
  | remove p => rfl
  | readWhole p =>
      cases hs
      have same : (FileStore.openFile r.store path).1 = (FileStore.openFile t.store path).1 :=
        h.openFile
      simp only [Reader.step, readWhole, same]
      generalize FileStore.openFile r.store path = left at same ⊢
      generalize FileStore.openFile t.store path = right at same ⊢
      obtain ⟨opened, store⟩ := left
      obtain ⟨opened', store'⟩ := right
      cases same
      cases opened with
      | error e => rfl
      | ok source => cases source <;> rfl

/-- After a step that both readers took they agree on the path again. -/
theorem AgreeAt.step (h : AgreeAt path r t) (setup : r.config = t.config) (s : Step) :
    AgreeAt path (r.step s).2 (t.step s).2 := by
  obtain ⟨contents, views, contents', views', hr, ht, hc, hv⟩ := h
  refine ⟨_, _, _, _, hr.step s, ht.step s, ?_, ?_⟩
  · simp only [hc]
  · simp only [hc, hv, setup]

/-- After a step that one reader took, and that leaves the contents and the view of the
path as they are, the readers agree on the path again. -/
theorem AgreeAt.skip (h : AgreeAt path r t)
    (still : ∀ contents views, Presents r contents views →
      s.nextContents path (contents path) = contents path ∧
      s.nextView r.config.maxReadLength path (contents path) (views path) = views path) :
    AgreeAt path (r.step s).2 t := by
  obtain ⟨contents, views, contents', views', hr, ht, hc, hv⟩ := h
  obtain ⟨file, view⟩ := still contents views hr
  exact ⟨_, _, _, _, hr.step s, ht, file.trans hc, view.trans hv⟩

/-- Readers that agree on every path have the same number of handles. -/
theorem handleCount_eq (h : ∀ path, AgreeAt path r t) : r.handleCount = t.handleCount :=
  PathMap.size_eq_of_contains fun path => (h path).isCached

/-- Readers that agree on every path ask their stores for the same. -/
theorem asked?_eq (h : ∀ path, AgreeAt path r t) (setup : r.config = t.config) (s : Step) :
    r.asked? s = t.asked? s := by
  unfold asked?
  rw [setup]
  split
  · next path _ => rw [(h path).isCached]
  · rfl

end Reader

end ScanFilter
