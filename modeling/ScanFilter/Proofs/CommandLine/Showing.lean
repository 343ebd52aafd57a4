import ScanFilter.CommandLine
import ScanFilter.Proofs.Storage.History
import ScanFilter.Proofs.Storage.PlainNames
import ScanFilter.Proofs.Text.Hex
/-!
# Commands that show a part of a file

A command shows a range of bytes or a number by one read of a new reader.  So it succeeds
just if that read does: the range is within the limit and starts where the disk goes to,
and it is of no bytes or in the file, so far below the offsets that the disk refuses that
it does not refuse to fill the buffer.  What it then prints is determined by the bytes of
the range and determines them in turn: an integer is in decimal, and bytes stand on the
first line in hexadecimal.

* `maxReadLength_of_parseAfter` — no argument changes the limit;
* `run_command` — a command against the read that it makes;
* `execute_show` — when a command that shows something succeeds, and what it prints;
* `execute_show_differs_near_limit` — a number in a file that is not shown.
-/

namespace ScanFilter

open CommandLine

/-- The text of an integer is the one that it has everywhere. -/
theorem integerText_eq_toString (n : Int) : integerText n = toString n := by
  unfold integerText Numeral.integer
  rcases n with n | n
  · rfl
  · rw [if_pos (Int.negSucc_lt_zero n), String.ofList_cons]
    rfl

namespace ReadForm

/-- The command that shows what a read finds. -/
def command (path : String) (offset : Option Nat) : ReadForm → Command
  | bytes length => .bytes path offset length
  | int => .field path offset .int
  | long => .field path offset .long
  | double => .field path offset .double

/-- What is printed of the bytes that a read found. -/
def printed (found : List UInt8) : ReadForm → String
  | bytes _ => showBytes found
  | int => (FieldKind.int.value found).text ++ "\n"
  | long => (FieldKind.long.value found).text ++ "\n"
  | double => (FieldKind.double.value found).text ++ "\n"

/-- Whether an output shows the bytes that a read found: on its first line, which
determines them, or as the number of which they are the word. -/
def Shown (found : List UInt8) (output : String) : ReadForm → Prop
  | bytes _ => ∃ line rest, output = String.ofList line ++ "\n" ++ rest ∧ '\n' ∉ line ∧
      Hex.Line found line ∧ ∀ other, Hex.Line other line → other = found
  | int | long => output = toString (Bytes.signed found) ++ "\n"
  | double => ∃ x : Binary64, x.bits.toNat = Bytes.ofBigEndian found ∧
      output = String.ofList x.text ++ "\n"

/-- What is printed of as many bytes as a read takes shows them. -/
theorem shown_printed {form : ReadForm} {found : List UInt8}
    (length : found.length = form.width) : form.Shown found (form.printed found) := by
  have decodes := decodes_decode length
  cases form with
  | bytes count =>
      have line := Hex.line_spaced found
      refine ⟨(Hex.spaced found).toList, Utf8.lenient found ++ "\n", ?_,
        line.newline_not_mem, line, fun other h => h.unique line⟩
      rw [String.ofList_toList, printed, showBytes, String.append_assoc]
  | int =>
      obtain ⟨n, same, value⟩ := decodes
      cases same
      change _ = _ ++ "\n"
      rw [← value, ← integerText_eq_toString]
      rfl
  | long =>
      obtain ⟨n, same, value⟩ := decodes
      cases same
      change _ = _ ++ "\n"
      rw [← value, ← integerText_eq_toString]
      rfl
  | double =>
      obtain ⟨x, same, value⟩ := decodes
      cases same
      exact ⟨_, value, rfl⟩

end ReadForm

namespace CommandLine

/-- No argument changes how many bytes one read may fetch. -/
theorem maxReadLength_of_parseAfter {debug : Bool} {capacity : Option Nat}
    {arguments : List String} {i : Invocation}
    (h : parseAfter debug capacity arguments = some i) :
    i.config.maxReadLength = 64 * 1024 * 1024 := by
  -- Only the name of a command ends the arguments well, and it sets nothing but the capacity.
  fun_induction parseAfter debug capacity arguments with
  | case3 _ _ text rest _ _ ih => exact ih h
  | case4 _ capacity text rest =>
      obtain ⟨command, _, rfl⟩ := Option.map_eq_some_iff.mp h
      rcases capacity with _ | n <;> rfl
  | case6 _ _ text _ name _ value rest _ ih =>
      obtain ⟨n, _, after⟩ := Option.bind_eq_some_iff.mp h
      exact ih n after
  | case7 _ _ text _ name _ value rest _ _ ih =>
      obtain ⟨n, _, after⟩ := Option.bind_eq_some_iff.mp h
      exact ih n after
  | _ => cases h

variable {σ : Type} [FileStore σ] {files : σ} {path : String} {offset : Option Nat}
  {form : ReadForm}

/-- A field is shown as what reading its bytes makes of them. -/
theorem run_field (r : Reader σ) (path : String) (offset : Option Nat) (kind : FieldKind) :
    (Command.field path offset kind).run r
      = ((r.fetch path offset kind.width).1.map fun found =>
          (kind.value found).text ++ "\n").mapError (.field kind path) := by
  simp only [Command.run, Reader.readField_eq]
  rcases (r.fetch path offset kind.width).1 with e | found <;> rfl

/-- A command over the limit fails. -/
theorem run_of_oversized {r : Reader σ} (h : form.Oversized r.config.maxReadLength)
    (path : String) (offset : Option Nat) :
    ∃ e, (form.command path offset).run r = .error e := by
  rcases form with length | _ | _ | _
  · refine ⟨.bytes length path (.readTooLarge path length r.config.maxReadLength), ?_⟩
    simp only [ReadForm.command, Command.run, Reader.readBytes_tooLarge h]
  · cases h
  · cases h
  · cases h

/-- A command within the limit prints what its read finds, or fails if that fails. -/
theorem run_command {r : Reader σ} (h : ¬ form.Oversized r.config.maxReadLength)
    (path : String) (offset : Option Nat) :
    ∃ failure, (form.command path offset).run r
      = ((r.fetch path offset form.width).1.map form.printed).mapError failure := by
  rcases form with length | _ | _ | _
  · have small : ¬ r.config.maxReadLength < length := h
    refine ⟨.bytes length path, ?_⟩
    simp only [ReadForm.command, Command.run, Reader.readBytes, if_neg small, ReadForm.width]
    rcases (r.fetch path offset length).1 with e | found <;> rfl
  · exact ⟨_, run_field r path offset .int⟩
  · exact ⟨_, run_field r path offset .long⟩
  · exact ⟨_, run_field r path offset .double⟩

/-- A program run that failed exits with one and prints nothing. -/
theorem Ending.of_failed {ending : Ending} {e : CommandError} (h : ending = .failed e)
    {good : Prop} (bad : ¬ good) (shown : Prop) :
    (ending.exitCode = 0 ↔ good) ∧ (ending.exitCode = 0 → shown) ∧
      (ending.exitCode ≠ 0 → ending.exitCode = 1 ∧ ending.output = "") := by
  subst h
  exact ⟨⟨fun zero => absurd zero Nat.one_ne_zero, fun h => absurd h bad⟩,
    fun zero => absurd zero Nat.one_ne_zero, fun _ => ⟨rfl, rfl⟩⟩

/-- A program run that succeeded exits with zero. -/
theorem Ending.of_succeeded {ending : Ending} {output : String}
    (h : ending = .succeeded output) {good shown : Prop} (hg : good) (hs : shown) :
    (ending.exitCode = 0 ↔ good) ∧ (ending.exitCode = 0 → shown) ∧
      (ending.exitCode ≠ 0 → ending.exitCode = 1 ∧ ending.output = "") := by
  subst h
  exact ⟨⟨fun _ => hg, fun _ => rfl⟩, fun _ => hs, fun failure => absurd rfl failure⟩

section Ends

variable {arguments : List String} {debug : Bool} {config : ReaderConfig} {command : Command}
  (given : parse arguments = some ⟨debug, config, command⟩)
include given

/-- The program prints what its command gives. -/
theorem execute_of_ok {output : String}
    (h : command.run (Reader.new files config) = .ok output) :
    execute files arguments = .succeeded output := by
  simp only [execute, given, Invocation.run, h]

/-- The program fails as its command does. -/
theorem execute_of_error {e : CommandError}
    (h : command.run (Reader.new files config) = .error e) :
    execute files arguments = .failed e := by
  simp only [execute, given, Invocation.run, h]

end Ends

section Shown

variable {contents : List UInt8} {arguments : List String} {debug : Bool}
  {config : ReaderConfig} (file : OnDisk files path contents)
  (given : parse arguments = some ⟨debug, config, form.command path offset⟩)
include file given

/-- A part that is within the limit is shown if the disk goes to its start and, unless it
is of no bytes, the file has it and the disk can be asked for a buffer full from there. -/
theorem execute_shown (within : ¬ form.Oversized (64 * 1024 * 1024))
    (near : offset.getD 0 < 0x8000000000000000)
    (served : form.width = 0 ∨ offset.getD 0 + form.width ≤ contents.length ∧
      offset.getD 0 + max form.width config.bufferCapacity < 0x8000000000000000) :
    execute files arguments
      = .succeeded (form.printed ((contents.drop (offset.getD 0)).take form.width)) := by
  have limit : config.maxReadLength = 64 * 1024 * 1024 := maxReadLength_of_parseAfter given
  obtain ⟨failure, ran⟩ := run_command (r := Reader.new files config) (limit ▸ within) path offset
  have found := Reader.fetch_new file config offset form.width
  simp only at found
  rw [if_pos (by omega)] at found
  rw [found] at ran
  exact execute_of_ok given ran

/-- A part for which one of these does not hold is not shown. -/
theorem execute_not_shown
    (bad : ¬ (offset.getD 0 < 0x8000000000000000 ∧ ¬ form.Oversized (64 * 1024 * 1024) ∧
      (form.width = 0 ∨ offset.getD 0 + form.width ≤ contents.length ∧
        offset.getD 0 + max form.width config.bufferCapacity < 0x8000000000000000))) :
    ∃ e, execute files arguments = .failed e := by
  have limit : config.maxReadLength = 64 * 1024 * 1024 := maxReadLength_of_parseAfter given
  by_cases oversized : form.Oversized (64 * 1024 * 1024)
  · obtain ⟨e, refused⟩ :=
      run_of_oversized (r := Reader.new files config) (limit ▸ oversized) path offset
    exact ⟨e, execute_of_error given refused⟩
  · obtain ⟨failure, ran⟩ :=
      run_command (r := Reader.new files config) (limit ▸ oversized) path offset
    have found := Reader.fetch_new file config offset form.width
    simp only at found
    have unserved : ¬ (offset.getD 0 < 0x8000000000000000 ∧
        (form.width = 0 ∨ offset.getD 0 + form.width ≤ contents.length ∧
          offset.getD 0 + max form.width config.bufferCapacity < 0x8000000000000000)) :=
      fun good => bad ⟨good.1, oversized, good.2⟩
    rw [if_neg (by omega)] at found
    obtain ⟨cause, missed, _⟩ := found
    rw [missed] at ran
    exact ⟨_, execute_of_error given ran⟩

end Shown

/-- **Commands that show something.**  Take a file on disk and arguments for showing a part
of it in some form.  The program succeeds just if the part starts where the disk goes to,
is within the limit, and unless it is of no bytes is in the file, and starts so far below
the offsets that the disk refuses that a buffer full, or the part if that is more, does not
come to them.  What it then prints shows the bytes of the part.  Otherwise it exits with
one and prints nothing. -/
theorem execute_show {contents : List UInt8} {arguments : List String} {debug : Bool}
    {config : ReaderConfig} (file : OnDisk files path contents)
    (given : parse arguments = some ⟨debug, config, form.command path offset⟩) :
    let start := offset.getD 0
    let ending := execute files arguments
    (ending.exitCode = 0 ↔ start < 0x8000000000000000 ∧
      ¬ form.Oversized (64 * 1024 * 1024) ∧
      (form.width = 0 ∨ start + form.width ≤ contents.length ∧
        start + max form.width config.bufferCapacity < 0x8000000000000000)) ∧
    (ending.exitCode = 0 →
      form.Shown ((contents.drop start).take form.width) ending.output) ∧
    (ending.exitCode ≠ 0 → ending.exitCode = 1 ∧ ending.output = "") := by
  intro start ending
  by_cases good : start < 0x8000000000000000 ∧ ¬ form.Oversized (64 * 1024 * 1024) ∧
      (form.width = 0 ∨ start + form.width ≤ contents.length ∧
        start + max form.width config.bufferCapacity < 0x8000000000000000)
  · obtain ⟨near, within, served⟩ := good
    have shown : ending = .succeeded _ := execute_shown file given within near served
    refine Ending.of_succeeded shown ⟨near, within, served⟩ ?_
    rw [shown]
    refine ReadForm.shown_printed ?_
    rw [List.length_take, List.length_drop]
    omega
  · obtain ⟨e, failed⟩ := execute_not_shown file given good
    exact Ending.of_failed failed good _

/-- A directory with a file of the four bytes of a negative number. -/
def fourBytes : Directory := .ofFiles (.ofList [("n", [0xff, 0xff, 0xff, 0xfe])])

theorem onDisk_fourBytes : OnDisk fourBytes "n" [0xff, 0xff, 0xff, 0xfe] :=
  Directory.onDisk_single (by decide) _

/-- The number is shown, and its last three bytes do not make one. -/
theorem execute_show_four_bytes :
    (execute fourBytes ["int", "n"]).output = "-2\n" ∧
      (execute fourBytes ["int", "n", "-o", "1"]).exitCode = 1 := by
  have whole : parse ["int", "n"] = some ⟨false, {}, ReadForm.int.command "n" none⟩ := rfl
  have last : parse ["int", "n", "-o", "1"]
      = some ⟨false, {}, ReadForm.int.command "n" (some 1)⟩ := rfl
  obtain ⟨success, shown, _⟩ := execute_show onDisk_fourBytes whole
  obtain ⟨failure, _, silent⟩ := execute_show onDisk_fourBytes last
  constructor
  · exact shown (success.mpr ⟨by decide, id, .inr (by decide)⟩)
  · refine (silent fun zero => ?_).1
    have inside := (failure.mp zero).2.2
    exact absurd inside (by decide)

/-- **A number next to the offsets that the disk refuses.**  A number in a file that is as
long as a file can be starts where the disk goes to, is within the limit and is in the
file.  It is not shown: the disk is asked for a buffer full. -/
theorem execute_show_differs_near_limit :
    let contents : List UInt8 := .replicate 0x7fffffffffffffff 0
    let files := Directory.ofFiles (.ofList [("n", contents)])
    let arguments := ["int", "n", "-o", "9223372036854775800"]
    let start := 9223372036854775800
    OnDisk files "n" contents ∧
      parse arguments = some ⟨false, {}, ReadForm.int.command "n" (some start)⟩ ∧
      ¬ ((execute files arguments).exitCode = 0 ↔ start < 0x8000000000000000 ∧
        ¬ ReadForm.int.Oversized (64 * 1024 * 1024) ∧
        (ReadForm.int.width = 0 ∨ start + ReadForm.int.width ≤ contents.length)) := by
  intro contents files arguments start
  have file : OnDisk files "n" contents := Directory.onDisk_single (by decide) contents
  have given : parse arguments = some ⟨false, {}, ReadForm.int.command "n" (some start)⟩ := rfl
  have length : contents.length = 0x7fffffffffffffff := List.length_replicate
  refine ⟨file, given, fun expected => ?_⟩
  obtain ⟨e, failed⟩ := execute_not_shown file given fun good =>
    absurd (good.2.2.resolve_left (by decide)).2 (by decide)
  rw [failed] at expected
  exact absurd (expected.mpr ⟨by decide, id, .inr (length ▸ by decide)⟩) Nat.one_ne_zero

end CommandLine

end ScanFilter
