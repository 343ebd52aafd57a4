/-!
# Finite maps on paths

A path map holds at most one entry for each path.  It is seen through `get?`;
its size counts the paths that have an entry.

* `get?_insert`, `get?_erase` — what each change does to the view;
* `insert_insert`, `erase_insert` — a change to a path undoes an earlier one;
* `mem_paths` — the paths are those that have an entry.
-/

namespace ScanFilter

/-- At most one entry for each path. -/
structure PathMap (α : Type) where
  entries : List (String × α)
  nodup : (entries.map Prod.fst).Nodup

namespace PathMap

variable {α : Type}

/-- The map without entries. -/
def empty : PathMap α := ⟨[], by simp⟩

/-- The entry of a path. -/
def get? (m : PathMap α) (path : String) : Option α := m.entries.lookup path

/-- Whether a path has an entry. -/
def contains (m : PathMap α) (path : String) : Bool := (m.get? path).isSome

/-- How many paths have an entry. -/
def size (m : PathMap α) : Nat := m.entries.length

/-- The paths that have an entry. -/
def paths (m : PathMap α) : List String := m.entries.map Prod.fst

/-- The map without the entry of a path. -/
def erase (m : PathMap α) (path : String) : PathMap α :=
  ⟨m.entries.filter (·.1 != path), by
    have sub : ((m.entries.filter (·.1 != path)).map Prod.fst).Sublist
        (m.entries.map Prod.fst) := List.filter_sublist.map Prod.fst
    exact sub.nodup m.nodup⟩

/-- The map with a new entry for a path in place of the old one. -/
def insert (m : PathMap α) (path : String) (a : α) : PathMap α :=
  ⟨(path, a) :: (m.erase path).entries, by
    refine List.nodup_cons.mpr ⟨?_, (m.erase path).nodup⟩
    simp [erase]⟩

/-- The map of a list of entries; of two for one path the later one holds. -/
def ofList (entries : List (String × α)) : PathMap α :=
  entries.foldl (fun m e => m.insert e.1 e.2) empty

/-- The first entry is looked up under its own path. -/
theorem lookup_self (p : String) (a : α) (es : List (String × α)) :
    ((p, a) :: es).lookup p = some a := by
  simp

/-- The first entry is passed over under any other path. -/
theorem lookup_other {p q : String} (h : q ≠ p) (a : α) (es : List (String × α)) :
    ((p, a) :: es).lookup q = es.lookup q := by
  have : (q == p) = false := by simp [h]
  rw [List.lookup_cons, this]

/-- A map in which no path has an entry is empty. -/
theorem eq_empty_of_get? {m : PathMap α} (h : ∀ path, m.get? path = none) : m = empty := by
  obtain ⟨entries, nodup⟩ := m
  cases entries with
  | nil => rfl
  | cons e es =>
      have missing := h e.1
      rw [get?, lookup_self] at missing
      cases missing

/-- Erasing a path removes its entry and no other. -/
theorem get?_erase (m : PathMap α) (path q : String) :
    (m.erase path).get? q = if q = path then none else m.get? q := by
  simp only [get?, erase]
  induction m.entries with
  | nil => simp
  | cons e es ih =>
      obtain ⟨p, a⟩ := e
      by_cases hp : p = path
      · subst hp
        rw [List.filter_cons_of_neg (by simp), ih]
        by_cases hq : q = p
        · rw [if_pos hq, if_pos hq]
        · rw [lookup_other hq]
      · rw [List.filter_cons_of_pos (by simp [hp])]
        by_cases hq : q = p
        · subst hq
          rw [lookup_self, lookup_self, if_neg hp]
        · rw [lookup_other hq, lookup_other hq, ih]

/-- Inserting an entry gives its path that entry and leaves the others alone. -/
theorem get?_insert (m : PathMap α) (path q : String) (a : α) :
    (m.insert path a).get? q = if q = path then some a else m.get? q := by
  have below := get?_erase m path q
  simp only [get?, insert] at *
  by_cases hq : q = path
  · rw [hq, lookup_self, if_pos rfl]
  · rw [lookup_other hq, below, if_neg hq, if_neg hq]

/-- An entry is erased with its path, whatever it was. -/
theorem erase_insert (m : PathMap α) (path : String) (a : α) :
    (m.insert path a).erase path = m.erase path := by
  simp [insert, erase, List.filter_filter]

/-- Of two entries for one path the later one holds. -/
theorem insert_insert (m : PathMap α) (path : String) (a b : α) :
    (m.insert path a).insert path b = m.insert path b := by
  have below := congrArg entries (erase_insert m path a)
  unfold insert at below ⊢
  simp only [below]

/-- Erasing a path without an entry changes nothing. -/
theorem erase_of_missing {m : PathMap α} {path : String} (h : m.get? path = none) :
    m.erase path = m := by
  have kept : m.entries.filter (·.1 != path) = m.entries := by
    refine List.filter_eq_self.mpr fun e here => ?_
    have other := List.lookup_eq_none_iff.mp h e here
    simpa [bne, Bool.beq_comm] using other
  unfold erase
  simp only [kept]

/-- After an insertion its path has an entry, and the others have one as before. -/
theorem contains_insert (m : PathMap α) (path q : String) (a : α) :
    (m.insert path a).contains q = (decide (q = path) || m.contains q) := by
  unfold contains
  rw [get?_insert]
  by_cases hq : q = path
  · simp [hq]
  · simp [hq]

/-- The paths of a map are those that have an entry. -/
theorem mem_paths (m : PathMap α) (path : String) :
    path ∈ m.paths ↔ m.contains path = true := by
  simp only [paths, contains, get?]
  induction m.entries with
  | nil => simp
  | cons e es ih =>
      obtain ⟨p, a⟩ := e
      by_cases h : path = p
      · simp [h]
      · simp [lookup_other h, h, ← ih]

end PathMap

end ScanFilter
