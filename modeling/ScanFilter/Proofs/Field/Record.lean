import ScanFilter.Proofs.Storage.History
import ScanFilter.Proofs.Storage.PlainNames
/-!
# Records of fields

A record is a row of numbers in a file, each in a field of its kind, one right behind the
other.  Its fields can be read in turn, the first at its offset and the others from the
cursor on, or each at its own offset, in any order and as often as one likes.  Both ways
give the numbers that were written.  Where the file is cut inside a field, both give the
fields before it, and both find the end of the file instead of that one.

* `value_bytes` — the bytes of a number are read as the number;
* `Reader.Offers` — a reader whose next read of a path goes through some view;
* `run_inTurn`, `step_readAt` — fields in turn, and a field at its place;
* `read_record` — a record in memory after any history, and on disk.
-/

namespace ScanFilter

/-- A number that a field can hold. -/
inductive FieldNumber
  | int (n : Int32)
  | long (n : Int64)
  | double (x : Binary64)

namespace FieldNumber

/-- The kind of field that holds a number. -/
def kind : FieldNumber → FieldKind
  | int _ => .int
  | long _ => .long
  | double _ => .double

/-- A number as a column value. -/
def value : FieldNumber → TypedValue
  | int n => .int n
  | long n => .long n
  | double x => .double x

/-- The bytes of a field, the most significant first. -/
def bytes : FieldNumber → List UInt8
  | int n => Bytes.bigEndian 4 n.toUInt32.toNat
  | long n => Bytes.bigEndian 8 n.toUInt64.toNat
  | double x => Bytes.bigEndian 8 x.bits.toNat

/-- A number takes as many bytes as its kind says. -/
theorem length_bytes (f : FieldNumber) : f.bytes.length = f.kind.width := by
  cases f <;> exact Bytes.length_bigEndian ..

/-- The bytes of a number are read as the number. -/
theorem value_bytes (f : FieldNumber) : f.kind.value f.bytes = f.value := by
  cases f with
  | int n =>
      have word : Bytes.ofBigEndian (Bytes.bigEndian 4 n.toUInt32.toNat) = n.toUInt32.toNat :=
        Bytes.ofBigEndian_bigEndian n.toUInt32.toNat_lt
      simp only [kind, bytes, FieldKind.value, value, word, Integer.ofNat_toUInt32]
  | long n =>
      have word : Bytes.ofBigEndian (Bytes.bigEndian 8 n.toUInt64.toNat) = n.toUInt64.toNat :=
        Bytes.ofBigEndian_bigEndian n.toUInt64.toNat_lt
      simp only [kind, bytes, FieldKind.value, value, word, Integer.ofNat_toUInt64]
  | double x =>
      have word : Bytes.ofBigEndian (Bytes.bigEndian 8 x.bits.toNat) = x.bits.toNat :=
        Bytes.ofBigEndian_bigEndian x.bits.toNat_lt
      simp only [kind, bytes, FieldKind.value, value, word, UInt64.ofNat_toNat]

end FieldNumber

theorem FieldKind.width_le (kind : FieldKind) : kind.width ≤ 8 := by
  cases kind <;> decide

theorem FieldKind.width_pos (kind : FieldKind) : 0 < kind.width := by
  cases kind <;> decide

/-- What a read shows that reaches the end of a file. -/
def Outcome.reachedEnd (path : String) : Outcome :=
  .failed (.storage (.ioFailure path .endOfFile))

/-! ## Reading fields through a view -/

/-- Whether a handle reads some view: one in memory, or one on disk that ends far enough
below what a disk refuses for a field or a buffer full to be asked for there. -/
inductive Handle.Reads (held : Nat → List UInt8) (capacity : Nat) (h : Handle) (v : View) :
    Prop
  | inMemory (shows : h.Shows v)
  | onDisk (shows : h.ShowsOnDisk held v)
      (room : v.contents.length + max capacity 8 < 0x8000000000000000)

/-- A span of a field that starts in the contents, or at their end, is read by the view. -/
theorem Handle.Reads.read {held : Nat → List UInt8} {capacity : Nat} {h : Handle} {v : View}
    (reads : h.Reads held capacity v) {g : Span} (near : v.start g ≤ v.contents.length)
    (small : g.width ≤ 8) :
    (h.read held capacity g.offset g.width).1 = v.slice g ∧
    (h.read held capacity g.offset g.width).2.Reads held capacity (v.advance g) := by
  cases reads with
  | inMemory shows =>
      obtain ⟨given, next⟩ := shows.read held capacity g
      exact ⟨given, .inMemory next⟩
  | onDisk shows room =>
      have seekable : ∀ o, g.offset = some o → o < 0x8000000000000000 := by
        intro o offset
        have start : v.start g = o := by rw [View.start, offset]; rfl
        omega
      have served : v.Served capacity g := .inr ⟨by omega, by omega, by omega⟩
      obtain ⟨given, next⟩ := shows.read seekable served
      exact ⟨given, .onDisk next room⟩

namespace Reader

variable {σ : Type} [FileStore σ] {r : Reader σ} {path : String} {v : View} {o : Option Nat}

/-- Whether the next read of a path goes through a handle of some view, which is there
already or is opened now. -/
def Offers (r : Reader σ) (path : String) (v : View) : Prop :=
  ∃ handle after, r.acquire path = (.ok handle, after) ∧
    handle.Reads (FileStore.held after.store) after.config.bufferCapacity v

theorem Offers.fetch (h : r.Offers path v) {g : Span} (near : v.start g ≤ v.contents.length)
    (small : g.width ≤ 8) :
    (r.fetch path g.offset g.width).1 = (v.slice g).mapError (.ioFailure path) ∧
    (r.fetch path g.offset g.width).2.Offers path (v.advance g) := by
  obtain ⟨handle, after, acquired, reads⟩ := h
  obtain ⟨given, next⟩ := reads.read near small
  unfold Reader.fetch
  rw [acquired]
  have cached (k : Handle) : (after.put path k).acquire path = (.ok k, after.put path k) :=
    acquire_cached ((handle?_put ..).trans (if_pos rfl))
  exact ⟨congrArg (Except.mapError (StorageError.ioFailure path)) given, _, _, cached _, next⟩

/-- A field that the contents have is read, and the cursor goes behind it. -/
theorem Offers.step_field (h : r.Offers path v) {kind : FieldKind} {word rest : List UInt8}
    (place : v.contents.drop (o.getD v.cursor) = word ++ rest)
    (width : word.length = kind.width) :
    (r.step (.field path o kind)).1 = .value (kind.value word) ∧
    (r.step (.field path o kind)).2.Offers path
      ⟨v.contents, o.getD v.cursor + kind.width⟩ := by
  have count := congrArg List.length place
  have positive := kind.width_pos
  rw [List.length_drop, List.length_append, width] at count
  have covered : v.Covers ⟨o, kind.width⟩ := by
    refine .inr ?_
    change o.getD v.cursor + kind.width ≤ v.contents.length
    omega
  have near : v.start ⟨o, kind.width⟩ ≤ v.contents.length := by
    change o.getD v.cursor ≤ v.contents.length
    omega
  obtain ⟨given, next⟩ := h.fetch near kind.width_le
  rw [View.slice_of_covers covered] at given
  rw [View.advance, if_pos covered] at next
  have found : (v.contents.drop (o.getD v.cursor)).take kind.width = word := by
    rw [place, List.take_left' width]
  simp only [Reader.step, readField_eq]
  refine ⟨?_, next⟩
  rw [given]
  exact congrArg (fun bytes => Outcome.value (kind.value bytes)) found

/-- A field that the contents end before is missed, and the cursor stays at its start. -/
theorem Offers.step_missing (h : r.Offers path v) {kind : FieldKind}
    (near : o.getD v.cursor ≤ v.contents.length)
    (short : (v.contents.drop (o.getD v.cursor)).length < kind.width) :
    (r.step (.field path o kind)).1 = .reachedEnd path ∧
    (r.step (.field path o kind)).2.Offers path
      ⟨v.contents, o.getD v.cursor⟩ := by
  rw [List.length_drop] at short
  have uncovered : ¬ v.Covers ⟨o, kind.width⟩ := by
    change ¬ (kind.width = 0 ∨ o.getD v.cursor + kind.width ≤ v.contents.length)
    omega
  obtain ⟨given, next⟩ := h.fetch (g := ⟨o, kind.width⟩) near kind.width_le
  rw [View.slice_of_not_covers uncovered] at given
  rw [View.advance, if_neg uncovered] at next
  simp only [Reader.step, readField_eq]
  refine ⟨?_, next⟩
  rw [given]
  rfl

/-- Whether the next read of a path goes through a handle on some contents. -/
def Finds (r : Reader σ) (path : String) (contents : List UInt8) : Prop :=
  ∃ cursor, r.Offers path ⟨contents, cursor⟩

/-- A run of steps, each of which keeps an invariant and has its outcome wherever the
invariant holds, has these outcomes. -/
theorem run_of_invariant {ι : Type} (holds : Reader σ → Prop) {steps : ι → Step}
    {outcome : ι → Outcome} {order : List ι}
    (step : ∀ i ∈ order, ∀ r, holds r →
      (r.step (steps i)).1 = outcome i ∧ holds (r.step (steps i)).2) (start : holds r) :
    (r.run (order.map steps)).map Prod.fst = order.map outcome := by
  induction order generalizing r with
  | nil => rfl
  | cons i order ih =>
      obtain ⟨first, next⟩ := step i List.mem_cons_self r start
      have rest := ih (fun j hj => step j (List.mem_cons_of_mem i hj)) next
      exact congrArg₂ List.cons first rest

end Reader

/-! ## Records -/

/-- Numbers in fields of their kinds, one right behind the other. -/
abbrev Record := List FieldNumber

namespace Record

/-- The bytes of a record. -/
def bytes (record : Record) : List UInt8 := record.flatMap FieldNumber.bytes

/-- How far behind the start of a record the field of an index begins. -/
def offset (record : Record) (i : Nat) : Nat := (bytes (record.take i)).length

/-- The steps that read fields in turn, the first at an offset, if there is one, and the
others from the cursor on. -/
def inTurn (path : String) : Option Nat → Record → List Step
  | _, [] => []
  | offset, f :: fields => .field path offset f.kind :: inTurn path none fields

/-- The step that reads the field of an index at its own offset, in a record that starts
at some offset. -/
def readAt (record : Record) (path : String) (start : Nat) (i : Fin record.length) : Step :=
  .field path (some (start + record.offset i)) record[i].kind

theorem bytes_cons (f : FieldNumber) (fields : Record) :
    bytes (f :: fields) = f.bytes ++ bytes fields := rfl

theorem bytes_append (fields more : Record) :
    bytes (fields ++ more) = bytes fields ++ bytes more :=
  List.flatMap_append

/-- In the bytes of the fields before some index, a field has those before it in front of
it and others behind it. -/
theorem bytes_split (record : Record) {whole : Nat} (i : Fin record.length)
    (inside : i < whole) :
    ∃ more, bytes (record.take whole)
      = bytes (record.take i) ++ (record[i].bytes ++ more) := by
  have parts : record.take whole
      = record.take i ++ record[i] :: (record.take whole).drop (i + 1) := by
    have split := List.take_append_drop i (record.take whole)
    rw [List.take_take, Nat.min_eq_left (Nat.le_of_lt inside),
      List.drop_eq_getElem_cons (by rw [List.length_take]; omega), List.getElem_take] at split
    exact split.symm
  rw [parts, bytes_append, bytes_cons]
  exact ⟨_, rfl⟩

theorem offset_succ (record : Record) (i : Fin record.length) :
    record.offset (i + 1) = record.offset i + record[i].kind.width := by
  have parts : record.take (i + 1) = record.take i ++ [record[i]] := by simp
  unfold offset
  rw [parts, bytes_append, List.length_append, ← FieldNumber.length_bytes]
  simp [bytes]

section Reading

variable {σ : Type} [FileStore σ] {r : Reader σ} {path : String} {v : View}

/-- Fields in turn: those that the contents have are given, and those for which too few
bytes are left behind them are missed. -/
theorem run_inTurn (h : r.Offers path v) (fields cut : Record) {o : Option Nat}
    {rest : List UInt8} (near : o.getD v.cursor ≤ v.contents.length)
    (place : v.contents.drop (o.getD v.cursor) = bytes fields ++ rest)
    (short : ∀ f ∈ cut, rest.length < f.kind.width) :
    (r.run (inTurn path o (fields ++ cut))).map Prod.fst
      = fields.map (fun f => .value f.value) ++ cut.map fun _ => .reachedEnd path := by
  -- By induction on the fields that are there, each of which moves the cursor to the next;
  -- behind them by induction on the others, none of which moves it.
  induction fields generalizing r v o with
  | nil =>
      induction cut generalizing r v o with
      | nil => rfl
      | cons f cut ih =>
          have few : (v.contents.drop (o.getD v.cursor)).length < f.kind.width := by
            rw [place]
            exact short f List.mem_cons_self
          obtain ⟨missed, next⟩ := h.step_missing near few
          have later := ih (fun g hg => short g (List.mem_cons_of_mem f hg)) next
            (o := none) near place
          exact congrArg₂ List.cons missed later
  | cons f fields ih =>
      rw [bytes_cons, List.append_assoc] at place
      obtain ⟨given, next⟩ := h.step_field place f.length_bytes
      have count := congrArg List.length place
      rw [List.length_drop, List.length_append, f.length_bytes] at count
      have behind : v.contents.drop (o.getD v.cursor + f.kind.width)
          = bytes fields ++ rest := by
        rw [← List.drop_drop, place, ← f.length_bytes, List.drop_left]
      have inside : o.getD v.cursor + f.kind.width ≤ v.contents.length := by
        have positive := f.kind.width_pos
        omega
      have later := ih next (o := none) inside behind
      rw [f.value_bytes] at given
      exact congrArg₂ List.cons given later

/-- A field is given at its own place, if the contents have it. -/
theorem step_readAt (h : r.Finds path contents) (record : Record) {start whole : Nat}
    {rest : List UInt8} (place : contents.drop start = bytes (record.take whole) ++ rest)
    {i : Fin record.length} (inside : i < whole) :
    (r.step (record.readAt path start i)).1 = .value record[i].value ∧
    (r.step (record.readAt path start i)).2.Finds path contents := by
  obtain ⟨cursor, offers⟩ := h
  obtain ⟨more, split⟩ := record.bytes_split i inside
  have here : contents.drop (start + record.offset i) = record[i].bytes ++ (more ++ rest) := by
    rw [← List.drop_drop, place, split, List.append_assoc, offset, List.drop_left,
      List.append_assoc]
  obtain ⟨given, next⟩ := offers.step_field (o := some (start + record.offset i)) here
    record[i].length_bytes
  rw [FieldNumber.value_bytes] at given
  exact ⟨given, _, next⟩

/-- The field that the contents are cut inside of, and each behind it, is missed at its
own place. -/
theorem step_readAt_cut (h : r.Finds path contents) (record : Record) {start : Nat}
    {i : Fin record.length} (near : start + record.offset i ≤ contents.length)
    (short : contents.length < start + record.offset (i + 1)) :
    (r.step (record.readAt path start i)).1 = .reachedEnd path ∧
    (r.step (record.readAt path start i)).2.Finds path contents := by
  obtain ⟨cursor, offers⟩ := h
  have few : (contents.drop (start + record.offset i)).length < record[i].kind.width := by
    rw [offset_succ] at short
    rw [List.length_drop]
    omega
  obtain ⟨missed, next⟩ := offers.step_missing (o := some (start + record.offset i)) near few
  exact ⟨missed, _, next⟩

end Reading

/-! ## Reading records -/

section Records

variable {σ : Type} [FileStore σ]

/-- Whether reads of a record that starts at an offset give its numbers, in turn from the
offset on, and each at its own place, in any order. -/
structure Given (record : Record) (r : Reader σ) (path : String) (start : Nat) : Prop where
  inTurn : (r.run (inTurn path (some start) record)).map Prod.fst
    = record.map fun f => .value f.value
  inAnyOrder : ∀ order : List (Fin record.length),
    (r.run (order.map (record.readAt path start))).map Prod.fst
      = order.map fun i => .value record[i].value

/-- Whether reads of a record that starts at an offset give its numbers before the field of
an index, and reach the end of the file at this one: in turn from the offset on, and each
at its own place, in any order. -/
structure GivenBefore (record : Record) (k : Fin record.length) (r : Reader σ)
    (path : String) (start : Nat) : Prop where
  inTurn : (r.run (Record.inTurn path (some start) (record.take (k + 1)))).map Prod.fst
    = (record.take k).map (fun f => .value f.value) ++ [.reachedEnd path]
  inAnyOrder : ∀ order : List (Fin record.length), (∀ i ∈ order, i ≤ k) →
    (r.run (order.map (record.readAt path start))).map Prod.fst
      = order.map fun i => if i < k then .value record[i].value else .reachedEnd path

/-- Whether a record between other bytes is read back from a file with these contents, up
to the field inside of which the file is cut, if it is. -/
structure ReadBack (record : Record) (before after contents : List UInt8) (r : Reader σ)
    (path : String) : Prop where
  whole : contents = before ++ record.bytes ++ after →
    record.Given r path before.length
  cut : ∀ (k : Fin record.length) (length : Nat),
    contents = (before ++ record.bytes ++ after).take length →
    before.length + record.offset k ≤ length →
    length < before.length + record.offset (k + 1) →
    record.GivenBefore k r path before.length

variable {r : Reader σ} {path : String} {contents : List UInt8}

theorem given_of_finds (h : r.Finds path contents) (record : Record)
    {before after : List UInt8} (made : contents = before ++ record.bytes ++ after) :
    record.Given r path before.length := by
  have place : contents.drop before.length = record.bytes ++ after := by
    rw [made, List.append_assoc, List.drop_left]
  refine ⟨?_, ?_⟩
  · obtain ⟨cursor, offers⟩ := h
    have near : before.length ≤ contents.length := by
      rw [made, List.length_append, List.length_append]
      omega
    have read := run_inTurn offers record [] (o := some before.length) near place (by simp)
    simpa using read
  · intro order
    refine Reader.run_of_invariant (·.Finds path contents) (fun i _ r found => ?_) h
    rw [← List.take_length (l := record)] at place
    exact step_readAt found record place i.isLt

theorem givenBefore_of_finds (h : r.Finds path contents) (record : Record)
    {before after : List UInt8} (k : Fin record.length) {length : Nat}
    (made : contents = (before ++ record.bytes ++ after).take length)
    (reached : before.length + record.offset k ≤ length)
    (short : length < before.length + record.offset (k + 1)) :
    record.GivenBefore k r path before.length := by
  obtain ⟨more, split⟩ := record.bytes_split k k.isLt
  have width := record[k].length_bytes
  rw [List.take_length] at split
  rw [offset_succ] at short
  -- What is left of the field and of what is behind it.
  obtain ⟨rest, place, few⟩ : ∃ rest, contents.drop before.length
      = bytes (record.take k) ++ rest ∧ rest.length < record[k].kind.width := by
    refine ⟨(record[k].bytes ++ more ++ after).take
      (length - before.length - record.offset k), ?_, ?_⟩
    · rw [made, List.append_assoc, List.drop_take, List.drop_left, split, List.append_assoc,
        List.take_append, List.take_of_length_le, offset]
      change record.offset k ≤ _
      omega
    · rw [List.length_take]
      omega
  have size : contents.length = length := by
    rw [made, split, List.length_take]
    simp only [List.length_append, width]
    change min length (_ + (record.offset k + _) + _) = length
    omega
  refine ⟨?_, fun order upTo => ?_⟩
  · obtain ⟨cursor, offers⟩ := h
    have fields : record.take (k + 1) = record.take k ++ [record[k]] := by simp
    have near : before.length ≤ contents.length := by omega
    rw [fields]
    exact run_inTurn offers (record.take k) [record[k]] (o := some before.length) near place
      (by simpa using few)
  · refine Reader.run_of_invariant (·.Finds path contents) (fun i hi r found => ?_) h
    by_cases inside : i < k
    · rw [if_pos inside]
      exact step_readAt found record place inside
    · obtain rfl : i = k := by
        have last := upTo i hi
        omega
      rw [if_neg inside]
      refine step_readAt_cut found record (by omega) ?_
      rw [offset_succ]
      omega

theorem readBack_of_finds (h : r.Finds path contents) (record : Record)
    (before after : List UInt8) : record.ReadBack before after contents r path :=
  ⟨fun made => given_of_finds h record made,
    fun k _ made reached short => givenBefore_of_finds h record k made reached short⟩

end Records

end Record

namespace Reader

/-- A reader over memory finds the contents of the view that its history determines. -/
theorem finds_after (files : PathMap (List UInt8)) (config : ReaderConfig)
    (past : List Step) {path : String} {view : View}
    (found : View.found? (contentsAfter files path past)
      (viewAfter files config.maxReadLength path past) = some view) :
    ((Reader.new (MemoryStore.ofFiles files) config).after past.reverse).Finds path
      view.contents := by
  obtain ⟨handle, after, acquired, shows, _⟩ :=
    (presents_after files config past).acquire_found found
  exact ⟨view.cursor, handle, after, acquired, .inMemory shows⟩

/-- A reader that has no handle on a file on disk finds the contents of the file. -/
theorem finds_onDisk {σ : Type} [FileStore σ] {r : Reader σ} {path : String}
    {contents : List UInt8} (fresh : r.isCached path = false)
    (stored : OnDisk r.store path contents)
    (room : contents.length + max r.config.bufferCapacity 8 < 0x8000000000000000) :
    r.Finds path contents := by
  obtain ⟨file, after, opened, rfl⟩ := stored
  have shows := Handle.showsOnDisk_ofSource (FileStore.held after) file
  have acquired : r.acquire path = (.ok (Handle.ofSource (.disk file)),
      ({ r with store := after } : Reader σ).put path (Handle.ofSource (.disk file))) := by
    have none : r.handle? path = none := by
      rw [isCached_eq] at fresh
      exact Option.isNone_iff_eq_none.mp (Option.isSome_eq_false_iff.mp fresh)
    rw [acquire_eq, none, opened]
  exact ⟨0, _, _, acquired, .onDisk shows room⟩

end Reader

/-- **Records are read back.**  Take a record of numbers in fields, each of any kind,
between any other bytes.  A reader over files in memory reads it back from the contents
that its history, whatever it is, lets it find at a path; so does a reader that has no
handle yet on a file on disk, whatever else it has read, if the file ends far enough below
what a disk refuses. -/
theorem read_record (record : Record) (before after : List UInt8) (path : String) :
    (∀ files config past view,
      View.found? (contentsAfter files path past)
        (viewAfter files config.maxReadLength path past) = some view →
      record.ReadBack before after view.contents
        ((Reader.new (MemoryStore.ofFiles files) config).after past.reverse) path) ∧
    (∀ {σ : Type} [FileStore σ] (r : Reader σ) (contents : List UInt8),
      r.isCached path = false → OnDisk r.store path contents →
      contents.length + max r.config.bufferCapacity 8 < 0x8000000000000000 →
      record.ReadBack before after contents r path) := by
  refine ⟨fun files config past view found => ?_, fun r contents fresh stored room => ?_⟩
  · exact Record.readBack_of_finds (Reader.finds_after files config past found) record ..
  · exact Record.readBack_of_finds (Reader.finds_onDisk fresh stored room) record ..

/-- A number of each kind. -/
def mixedRecord : Record := [.int (-2), .double ⟨0x8000000000000001⟩, .long 7]

/-- The numbers between other bytes, in a file that has all of them and in one that is cut
inside the last. -/
def recordFiles : PathMap (List UInt8) :=
  .ofList [("whole", [1, 2] ++ mixedRecord.bytes ++ [9]),
    ("cut", ([1, 2] ++ mixedRecord.bytes ++ [9]).take 16)]

/-- The numbers are read back in turn from memory, after a read that left the cursor
elsewhere, and from the last to the first in a directory. -/
theorem read_record_mixed :
    (((Reader.new (MemoryStore.ofFiles recordFiles) {}).after [.bytes "whole" none 5]).run
        (Record.inTurn "whole" (some 2) mixedRecord)).map Prod.fst
      = [.value (.int (-2)), .value (.double ⟨0x8000000000000001⟩), .value (.long 7)] ∧
    ((Reader.new (Directory.ofFiles recordFiles) {}).run
        [.field "cut" (some 14) .long, .field "cut" (some 6) .double,
          .field "cut" (some 2) .int]).map Prod.fst
      = [.reachedEnd "cut", .value (.double ⟨0x8000000000000001⟩), .value (.int (-2))] := by
  have held : (Directory.ofFiles recordFiles).Holds recordFiles.get? :=
    Directory.holds_ofFiles (by decide)
  have stored : OnDisk (Directory.ofFiles recordFiles) "cut" _ :=
    held.onDisk (by decide) rfl
  constructor
  · have found := (read_record mixedRecord [1, 2] [9] "whole").1 recordFiles {}
      [.bytes "whole" none 5] ⟨_, 5⟩ rfl
    exact (found.whole rfl).inTurn
  · have found := (read_record mixedRecord [1, 2] [9] "cut").2
      (Reader.new (Directory.ofFiles recordFiles) {}) _ rfl stored (by decide)
    exact (found.cut ⟨2, by decide⟩ 16 rfl (by decide) (by decide)).inAnyOrder
      [⟨2, by decide⟩, ⟨1, by decide⟩, ⟨0, by decide⟩] (by decide)

end ScanFilter
