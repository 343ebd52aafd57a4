import Mathlib.Logic.Function.Basic
import Mathlib.Tactic.MkIffOfInductiveProp
import ScanFilter.Proofs.Storage.Disk
import ScanFilter.Storage.Directory
/-!
# Files under plain names

A plain name is a single part of a path that neither stays nor goes up and is not too
long.  A walk to a plain name is one look-up in the working directory, so a directory
**holds** some files when it has their contents under their plain names and nothing under
the other ones.  Any files of plain names can be held.

* `resolve_plain`, `insert_plain` — a plain name is looked up, and written to, alone;
* `Holds.onDisk` — a file that a directory holds is on disk;
* `Holds.insert` — a directory holds a file after it was made;
* `holds_ofFiles`, `onDisk_single` — the directory of some files holds them.
-/

namespace ScanFilter

/-- A name that a file in a working directory can have. -/
@[mk_iff] structure PlainName (name : String) : Prop where
  nonempty : name.toList ≠ []
  noSlash : '/' ∉ name.toList
  noNul : '\x00' ∉ name.toList
  notStay : name.toList ≠ ['.']
  notUp : name.toList ≠ ['.', '.']
  short : (Utf8.encode name).length ≤ 255

instance (name : String) : Decidable (PlainName name) :=
  decidable_of_iff _ (plainName_iff name).symm

namespace PlainName

variable {name : String} (h : PlainName name)
include h

theorem isStay : isStay name.toList = false := by
  simp [ScanFilter.isStay, h.nonempty, h.notStay]

theorem isUp : isUp name.toList = false := by
  simp [ScanFilter.isUp, h.notUp]

theorem isTooLong : isTooLong name.toList = false :=
  decide_eq_false (Nat.not_lt.mpr h.short)

theorem refusal? : Directory.refusal? name.toList = none := by
  have short : ¬ 4096 ≤ (name.toList.flatMap Utf8.encodeChar).length := by
    have := h.short
    unfold Utf8.encode at this
    omega
  unfold Directory.refusal?
  rw [if_neg h.noNul, if_neg h.nonempty, if_neg short]

/-- A plain name is walked from the working directory. -/
theorem start : Directory.start name.toList = [] :=
  if_neg fun slash => h.noSlash (List.mem_of_head? slash)

/-- A plain name stands for what the nodes say. -/
theorem node? (d : Directory) : d.node? [name.toList] = d.nodes.lookup [name.toList] := by
  have notRoot : [name.toList] ≠ Directory.root := by
    intro same
    have slash : name.toList = ['/'] := List.singleton_inj.mp same
    exact h.noSlash (slash ▸ List.mem_singleton_self '/')
  have notUp : ¬ [name.toList].all ScanFilter.isUp = true := by simp [h.isUp]
  exact if_neg (not_or.mpr ⟨notRoot, notUp⟩)

end PlainName

namespace Directory

variable {d : Directory} {name : String}

/-- A plain name leads to what it stands for. -/
theorem resolve_plain (h : PlainName name) (d : Directory) :
    d.resolve name.toList = match d.nodes.lookup [name.toList] with
      | some node => .ok node
      | none => .error .missing := by
  have here : d.node? [] = some .directory := if_pos (.inr rfl)
  simp only [resolve, h.refusal?, h.start, splitPath_plain h.noSlash, walk, here, h.isStay,
    h.isUp, h.isTooLong, List.nil_append, h.node?]
  rfl

/-- Writing to a plain name makes no directories. -/
theorem insert_plain (h : PlainName name) (d : Directory) (bytes : List UInt8) :
    d.insert name bytes = d.write [name.toList] bytes := by
  simp [insert, h.refusal?, h.start, splitPath_plain h.noSlash, h.isStay, h.isUp,
    h.isTooLong, reach]

/-- A plain name is opened as what it stands for. -/
theorem openFile_plain (h : PlainName name) (d : Directory) :
    d.openFile name = match d.nodes.lookup [name.toList] with
      | some (.file number) => .ok (.disk number)
      | some .directory => .ok .directory
      | none => .error .missing := by
  unfold openFile
  rw [resolve_plain h]
  rcases d.nodes.lookup [name.toList] with _ | number | _ <;> rfl

/-- Whether a name leads to a file with some contents, or to nothing. -/
def Leads (d : Directory) (name : String) : Option (List UInt8) → Prop
  | some bytes => ∃ number, d.openFile name = .ok (.disk number) ∧
      d.contents[number]? = some bytes
  | none => d.openFile name = .error .missing

/-- Whether a directory has, of all plain names, just some files, with their contents. -/
def Holds (d : Directory) (files : String → Option (List UInt8)) : Prop :=
  ∀ name, PlainName name → d.Leads name (files name)

theorem held_of_getElem? {number : Nat} {bytes : List UInt8}
    (h : d.contents[number]? = some bytes) : d.held number = bytes := by
  rw [held, List.getD_eq_getElem?_getD, h]
  rfl

/-- A file that a directory holds is on disk. -/
theorem Holds.onDisk {files : String → Option (List UInt8)} {bytes : List UInt8}
    (h : d.Holds files) (plain : PlainName name) (file : files name = some bytes) :
    OnDisk d name bytes := by
  have leads := h name plain
  rw [file] at leads
  obtain ⟨number, opened, stored⟩ := leads
  exact ⟨number, d, congrArg (·, d) opened, held_of_getElem? stored⟩

/-- Nothing is under a plain name that leads to nothing. -/
theorem lookup_of_leads (plain : PlainName name) (h : d.Leads name none) :
    d.nodes.lookup [name.toList] = none := by
  have missing : d.openFile name = .error .missing := h
  rw [openFile_plain plain] at missing
  rcases node : d.nodes.lookup [name.toList] with _ | number | _
  · rfl
  · rw [node] at missing
    cases missing
  · rw [node] at missing
    cases missing

/-- After a file was made under a plain name, a directory holds it with the others. -/
theorem Holds.insert {files : String → Option (List UInt8)} (h : d.Holds files)
    (plain : PlainName name) (fresh : files name = none) (bytes : List UInt8) :
    (d.insert name bytes).Holds (Function.update files name (some bytes)) := by
  have missing := h name plain
  rw [fresh] at missing
  have made : d.insert name bytes = d.create [name.toList] bytes := by
    rw [insert_plain plain, write, plain.node?, lookup_of_leads plain missing]
  rw [made]
  intro other plain'
  have before := h other plain'
  by_cases same : other = name
  · subst same
    rw [Function.update_self]
    refine ⟨d.contents.length, ?_, List.getElem?_concat_length⟩
    rw [openFile_plain plain]
    simp [create]
  · have apart : ([other.toList] == [name.toList]) = false := by
      simpa [String.toList_inj] using same
    have opened : (d.create [name.toList] bytes).openFile other = d.openFile other := by
      rw [openFile_plain plain', openFile_plain plain', create, List.lookup_cons, apart]
    rw [Function.update_of_ne same]
    generalize files other = contents at before ⊢
    rcases contents with _ | found
    · exact opened.trans before
    · obtain ⟨number, leads, stored⟩ := before
      refine ⟨number, opened.trans leads, ?_⟩
      change (d.contents ++ [bytes])[number]? = some found
      rw [List.getElem?_append_left (List.getElem?_eq_some_iff.mp stored).1]
      exact stored

/-- After files were made in turn under plain names, none of them twice, a directory
holds them with the others. -/
theorem Holds.insertAll {files : String → Option (List UInt8)} (h : d.Holds files)
    {entries : List (String × List UInt8)} (plain : ∀ e ∈ entries, PlainName e.1)
    (nodup : (entries.map Prod.fst).Nodup) (fresh : ∀ e ∈ entries, files e.1 = none) :
    (entries.foldl (fun d e => d.insert e.1 e.2) d).Holds
      fun name => (entries.lookup name).or (files name) := by
  -- By induction on the files still to make: the first one adds itself to those held, and
  -- the others stay fresh because no name is listed twice.
  induction entries generalizing d files with
  | nil => exact h
  | cons e entries ih =>
      obtain ⟨new, distinct⟩ := List.nodup_cons.mp nodup
      have unlisted : ∀ e' ∈ entries, e'.1 ≠ e.1 :=
        fun e' he' same => new (same ▸ List.mem_map_of_mem he')
      have first := h.insert (plain e List.mem_cons_self) (fresh e List.mem_cons_self) e.2
      have rest := ih first (fun e' he' => plain e' (List.mem_cons_of_mem e he')) distinct
        fun e' he' => by
          rw [Function.update_of_ne (unlisted e' he')]
          exact fresh e' (List.mem_cons_of_mem e he')
      intro name plain'
      have found := rest name plain'
      by_cases same : name = e.1
      · have none : entries.lookup e.1 = none :=
          List.lookup_eq_none_iff.mpr fun e' he' => bne_iff_ne.mpr (unlisted e' he').symm
        have first : (e :: entries).lookup e.1 = some e.2 := PathMap.lookup_self e.1 e.2 entries
        simp only [same, Function.update_self, none, first] at found ⊢
        exact found
      · simp only [Function.update_of_ne same, PathMap.lookup_other same] at found ⊢
        exact found

theorem holds_empty : empty.Holds fun _ => none := by
  intro name plain
  exact openFile_plain plain empty

/-- A working directory with some files. -/
def ofFiles (files : PathMap (List UInt8)) : Directory :=
  ofList (files.entries.map fun e => (e.1, some e.2))

/-- The directory of some files of plain names holds them. -/
theorem holds_ofFiles {files : PathMap (List UInt8)}
    (plain : ∀ e ∈ files.entries, PlainName e.1) : (ofFiles files).Holds files.get? := by
  have held := holds_empty.insertAll plain files.nodup fun _ _ => rfl
  have found : (fun name => (files.entries.lookup name).or none) = files.get? :=
    funext fun name => Option.or_none
  rw [found] at held
  unfold ofFiles ofList
  rw [List.foldl_map]
  exact held

/-- The directory of a single file has it on disk. -/
theorem onDisk_single (plain : PlainName name) (bytes : List UInt8) :
    OnDisk (ofFiles (.ofList [(name, bytes)])) name bytes := by
  refine (holds_ofFiles fun e he => ?_).onDisk plain (PathMap.lookup_self name bytes [])
  rw [List.mem_singleton.mp he]
  exact plain

end Directory

end ScanFilter
