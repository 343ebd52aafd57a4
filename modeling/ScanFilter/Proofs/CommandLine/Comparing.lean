import ScanFilter.Proofs.CommandLine.Showing
import ScanFilter.Proofs.Comparison.Numbers
import ScanFilter.Proofs.Field.Filtering
import ScanFilter.Proofs.Value.Integral
/-!
# Commands that compare an integer field

A command compares an integer of a file with a literal.  The literal is good when it
denotes an integer, blanks at its ends apart, and that is in the signed range of the
field.  The command succeeds just if the literal is good and the field is in the file, so
far below the offsets that the disk refuses that it does not refuse to fill the buffer, and
it prints whether the comparison holds of the two integers.  The literal is read first, so
a literal that is no good is what a command fails for, whatever the files are.

* `parseLiteral_of_literal`, `literal_of_parseLiteral` — the literals of an integer field;
* `value_member` — the value of an integer field is its number in two's complement;
* `parse_compare` — arguments that ask for a comparison, and which one;
* `execute_compare` — when a comparison succeeds, what it prints, and why it fails;
* `execute_compare_differs_near_limit` — an integer in a file that is not compared.
-/

namespace ScanFilter

open Numeral (Denotes)

namespace FieldKind

/-- Whether an integer is in the signed range of the words of a kind of field. -/
def InRange (kind : FieldKind) (z : Int) : Prop :=
  -(Nat.pow 256 kind.width / 2 : Nat) ≤ z ∧ z < (Nat.pow 256 kind.width / 2 : Nat)

/-- Whether a text is a literal for an integer field: it denotes an integer that is in
the range of the field. -/
def Literal (kind : FieldKind) (text : String) (z : Int) : Prop :=
  Denotes text.toList z ∧ kind.InRange z

variable {kind : FieldKind} {text : String} {z : Int}

/-- A literal for an integer field is read as a value that is the integer. -/
theorem parseLiteral_of_literal (integral : kind ≠ .double) (h : kind.Literal text z) :
    ∃ m : Family.numbers.Member, kind.parseLiteral text = .ok m.value ∧ m.number = z := by
  obtain ⟨denotes, low, high⟩ := h
  rcases kind with _ | _ | _
  · have value : (Int32.ofInt z).toInt = z := Int32.toInt_ofInt_of_le low high
    have read := TypedValue.asInt_string.mpr (value.symm ▸ denotes)
    exact ⟨.int (Int32.ofInt z), congrArg (Except.map TypedValue.int) read,
      congrArg Int.cast value⟩
  · have value : (Int64.ofInt z).toInt = z := Int64.toInt_ofInt_of_le low high
    have read := TypedValue.asLong_string.mpr (value.symm ▸ denotes)
    exact ⟨.long (Int64.ofInt z), congrArg (Except.map TypedValue.long) read,
      congrArg Int.cast value⟩
  · exact absurd rfl integral

/-- Nothing else is read as a literal for an integer field. -/
theorem literal_of_parseLiteral (integral : kind ≠ .double) {v : TypedValue}
    (h : kind.parseLiteral text = .ok v) : ∃ z, kind.Literal text z := by
  rcases kind with _ | _ | _
  · rcases read : (TypedValue.string text).asInt with e | n
    · rw [parseLiteral, read] at h
      cases h
    · exact ⟨n.toInt, TypedValue.asInt_string.mp read, n.le_toInt, n.toInt_lt⟩
  · rcases read : (TypedValue.string text).asLong with e | n
    · rw [parseLiteral, read] at h
      cases h
    · exact ⟨n.toInt, TypedValue.asLong_string.mp read, n.le_toInt, n.toInt_lt⟩
  · exact absurd rfl integral

/-- The value of an integer field is its number in two's complement. -/
theorem value_member (integral : kind ≠ .double) {found : List UInt8}
    (length : found.length = kind.width) :
    ∃ m : Family.numbers.Member, m.value = kind.value found ∧
      m.number = (Bytes.signed found : ℚ) := by
  rcases kind with _ | _ | _
  · have decodes : ReadForm.int.Decodes found _ := ReadForm.decodes_decode length
    obtain ⟨n, same, value⟩ := decodes
    cases same
    exact ⟨.int _, rfl, congrArg Int.cast value⟩
  · have decodes : ReadForm.long.Decodes found _ := ReadForm.decodes_decode length
    obtain ⟨n, same, value⟩ := decodes
    cases same
    exact ⟨.long _, rfl, congrArg Int.cast value⟩
  · exact absurd rfl integral

end FieldKind

/-- Integers compare as the rational numbers that they are. -/
theorem ComparisonOperator.relates_cast (op : ComparisonOperator) (x y : Int) :
    op.Relates (x : ℚ) y ↔ op.Relates x y := by
  cases op <;> simp [Relates]

/-- A comparison of two members is that of their numbers, since neither is null. -/
theorem comparisonHolds_member {family : Family} (op : ComparisonOperator)
    (l r : family.Member) :
    comparisonHolds op l.value r.value = .ok (decide (op.Relates l.number r.number)) := by
  rw [comparisonHolds_of_not_null l.notNull r.notNull]
  exact compareValues_member op l r

/-- The name of a comparison among the arguments. -/
def ComparisonOperator.argument : ComparisonOperator → String
  | equalTo => "eq"
  | notEquals => "ne"
  | lessThan => "lt"
  | lessThanEqualTo => "le"
  | greaterThan => "gt"
  | greaterThanEqualTo => "ge"

/-- The name of a kind of field among the arguments. -/
def FieldKind.argument : FieldKind → String
  | int => "int"
  | long => "long"
  | double => "double"

namespace CommandLine

variable {σ : Type} [FileStore σ] {files : σ} {path : String} {offset : Option Nat}
  {kind : FieldKind} {op : ComparisonOperator} {text : String}

/-- Arguments that name a path, a kind of field, a comparison and any literal at all ask
for that comparison. -/
theorem parse_compare {path : String}
    (plain : Word.ofText [.offset, .kind, .op, .value] path = .operand)
    (kind : FieldKind) (op : ComparisonOperator) (text : String) :
    parse ["compare", path, "--kind", kind.argument, "--op", op.argument, "--value", text]
      = some ⟨false, {}, .compare path none kind op text⟩ := by
  have words : scan [.offset, .kind, .op, .value]
      [path, "--kind", kind.argument, "--op", op.argument, "--value", text]
      = some ⟨[(.kind, kind.argument), (.op, op.argument), (.value, text)], [path]⟩ := by
    rw [scan, plain]
    cases kind <;> cases op <;> rfl
  have command : Command.parse "compare"
      [path, "--kind", kind.argument, "--op", op.argument, "--value", text]
      = some (.compare path none kind op text) := by
    simp only [Command.parse, words]
    cases kind <;> cases op <;> rfl
  have name : Word.ofText [.bufferCapacity] "compare" = .operand := rfl
  unfold parse parseAfter
  simp only [name, command]
  rfl

/-- With a good literal a command compares what its read finds. -/
theorem run_of_literal (integral : kind ≠ .double) {z : Int} (good : kind.Literal text z)
    {r : Reader σ} {found : List UInt8} (length : found.length = kind.width)
    (read : (r.fetch path offset kind.width).1 = .ok found) :
    (Command.compare path offset kind op text).run r
      = .ok (truthText (decide (op.Relates (Bytes.signed found) z)) ++ "\n") := by
  obtain ⟨m, literal, number⟩ := FieldKind.parseLiteral_of_literal integral good
  obtain ⟨field, value, signed⟩ := FieldKind.value_member integral length
  have shown : (r.readField path offset kind).1 = .ok field.value := by
    rw [Reader.readField_eq, read, value]
    rfl
  have compared : (r.compareField path offset kind op m.value).1
      = .ok (decide (op.Relates (Bytes.signed found) z)) := by
    rw [Reader.compareField_of_ok shown, comparisonHolds_member, number, signed]
    simp only [op.relates_cast]
    rfl
  simp only [Command.run, literal, compared]

/-- With a good literal a command fails if its read does. -/
theorem run_of_unread (integral : kind ≠ .double) {z : Int} (good : kind.Literal text z)
    {r : Reader σ} {e : StorageError}
    (missed : (r.fetch path offset kind.width).1 = .error e) :
    (Command.compare path offset kind op text).run r
      = .error (.compare op path (.storage e)) := by
  obtain ⟨m, literal, _⟩ := FieldKind.parseLiteral_of_literal integral good
  have unread : (r.readField path offset kind).1 = .error e := by
    rw [Reader.readField_eq, missed]
    rfl
  have refused := (Reader.compareField_eq_storage_iff op m.value e).mpr unread
  simp only [Command.run, literal, refused]

section Ends

variable {contents : List UInt8} {arguments : List String} {debug : Bool}
  {config : ReaderConfig}
  (given : parse arguments = some ⟨debug, config, .compare path offset kind op text⟩)
include given

/-- A bad literal is what the program fails for, whatever the files are. -/
theorem execute_bad_literal (integral : kind ≠ .double)
    (bad : ¬ ∃ z, kind.Literal text z) :
    ∃ e, ∀ others : σ, execute others arguments = .failed (.literal kind text e) := by
  rcases literal : kind.parseLiteral text with e | v
  · refine ⟨e, fun others => execute_of_error given ?_⟩
    simp only [Command.run, literal]
  · exact absurd (FieldKind.literal_of_parseLiteral integral literal) bad

/-- With a good literal and an integer that is in the file the program prints whether the
comparison holds of the two, if the disk can be asked for a buffer full from its start. -/
theorem execute_literal (file : OnDisk files path contents) (integral : kind ≠ .double)
    {z : Int} (good : kind.Literal text z)
    (inside : offset.getD 0 + kind.width ≤ contents.length)
    (near : offset.getD 0 + max kind.width config.bufferCapacity < 0x8000000000000000) :
    execute files arguments = .succeeded (truthText (decide (op.Relates
      (Bytes.signed ((contents.drop (offset.getD 0)).take kind.width)) z)) ++ "\n") := by
  have found := Reader.fetch_new file config offset kind.width
  simp only at found
  rw [if_pos (by omega)] at found
  refine execute_of_ok given (run_of_literal integral good ?_ found)
  rw [List.length_take, List.length_drop]
  omega

/-- With a good literal and an integer that is not in the file, or from which on the disk
cannot be asked for a buffer full, the program fails at the file, and because of the offset
if the disk refuses it. -/
theorem execute_unread (file : OnDisk files path contents) (integral : kind ≠ .double)
    (good : ∃ z, kind.Literal text z)
    (unserved : ¬ (offset.getD 0 + kind.width ≤ contents.length ∧
      offset.getD 0 + max kind.width config.bufferCapacity < 0x8000000000000000)) :
    ∃ cause, execute files arguments
        = .failed (.compare op path (.storage (.ioFailure path cause))) ∧
      (0x8000000000000000 ≤ offset.getD 0 + max kind.width config.bufferCapacity →
        cause = .seekRefused) := by
  obtain ⟨z, literal⟩ := good
  have some : kind.width ≠ 0 := by cases kind <;> decide
  have found := Reader.fetch_new file config offset kind.width
  simp only at found
  rw [if_neg (by omega)] at found
  obtain ⟨cause, missed, refused⟩ := found
  exact ⟨cause, execute_of_error given (run_of_unread integral literal missed),
    fun far => refused (.inr ⟨some, far⟩)⟩

end Ends

/-- **Commands that compare an integer field.**  Take a file on disk and arguments for
comparing an integer of it with a literal.  The program succeeds just if the literal is
good and the integer is in the file, so far below the offsets that the disk refuses that a
buffer full, or the integer if that is more, does not come to them; and it then prints
whether the comparison holds of the two integers.  Otherwise it exits with one and prints
nothing.  With a bad literal it fails for that, whatever the files are, and else because of
the offset if the disk refuses it. -/
theorem execute_compare {contents : List UInt8} {arguments : List String} {debug : Bool}
    {config : ReaderConfig} (file : OnDisk files path contents) (integral : kind ≠ .double)
    (given : parse arguments = some ⟨debug, config, .compare path offset kind op text⟩) :
    let start := offset.getD 0
    let field := (contents.drop start).take kind.width
    let reach := start + max kind.width config.bufferCapacity
    let ending := execute files arguments
    (ending.exitCode = 0 ↔ (∃ z, kind.Literal text z) ∧
      start + kind.width ≤ contents.length ∧ reach < 0x8000000000000000) ∧
    (ending.exitCode = 0 → ∀ z, kind.Literal text z →
      ending.output = if op.Relates (Bytes.signed field) z then "true\n" else "false\n") ∧
    (ending.exitCode ≠ 0 → ending.exitCode = 1 ∧ ending.output = "") ∧
    ((¬ ∃ z, kind.Literal text z) →
      ∃ e, ∀ others : σ, execute others arguments = .failed (.literal kind text e)) ∧
    ((∃ z, kind.Literal text z) → 0x8000000000000000 ≤ reach →
      ending = .failed (.compare op path (.storage (.ioFailure path .seekRefused)))) := by
  intro start field reach ending
  let good := (∃ z, kind.Literal text z) ∧
    start + kind.width ≤ contents.length ∧ reach < 0x8000000000000000
  -- The literal is read before the file, so it decides first how the command ends.
  by_cases literal : ∃ z, kind.Literal text z
  · by_cases served : start + kind.width ≤ contents.length ∧ reach < 0x8000000000000000
    · have printed : ∀ z, kind.Literal text z → ending = .succeeded _ :=
        fun z h => execute_literal given file integral h served.1 served.2
      have both : good := ⟨literal, served⟩
      obtain ⟨w, h⟩ := literal
      obtain ⟨success, _, failure⟩ := Ending.of_succeeded (printed w h) both trivial
      refine ⟨success, fun _ z h => ?_, failure, fun bad => absurd ⟨w, h⟩ bad,
        fun _ far => absurd served.2 (Nat.not_lt.mpr far)⟩
      rw [printed z h]
      by_cases holds : op.Relates (Bytes.signed field) z
      · rw [decide_eq_true holds, if_pos holds]
        rfl
      · rw [decide_eq_false holds, if_neg holds]
        rfl
    · obtain ⟨cause, failed, far⟩ := execute_unread given file integral literal served
      have missing : ¬ good := fun h => served h.2
      obtain ⟨success, never, failure⟩ := Ending.of_failed failed missing False
      refine ⟨success, fun zero => (never zero).elim, failure, fun bad => absurd literal bad,
        fun _ high => ?_⟩
      rw [← far high]
      exact failed
  · obtain ⟨e, rejected⟩ := execute_bad_literal (σ := σ) given integral literal
    have bad : ¬ good := fun h => literal h.1
    obtain ⟨success, never, failure⟩ := Ending.of_failed (rejected files) bad False
    exact ⟨success, fun zero => (never zero).elim, failure, fun _ => ⟨e, rejected⟩,
      fun h => absurd h literal⟩

/-- The number of the file is less than a literal with blanks and a plus sign. -/
theorem execute_compare_four_bytes :
    (execute fourBytes ["compare", "n", "--kind", "int", "--op", "lt", "--value", " +7 "]).output
      = "true\n" := by
  have plain : Word.ofText [.offset, .kind, .op, .value] "n" = .operand := rfl
  have given := parse_compare plain .int .lessThan " +7 "
  have literal : FieldKind.int.Literal " +7 " 7 :=
    ⟨Numeral.readInteger?_trim.mp rfl, by decide, by decide⟩
  obtain ⟨success, printed, _⟩ := execute_compare onDisk_fourBytes (by decide) given
  have less : Bytes.signed [0xff, 0xff, 0xff, 0xfe] < 7 := by decide
  exact (printed (success.mpr ⟨⟨7, literal⟩, by decide, by decide⟩) 7 literal).trans
    (if_pos less)

/-- **An integer next to the offsets that the disk refuses.**  An integer in a file that is
as long as a file can be, and a good literal.  They are not compared: the disk is asked for
a buffer full. -/
theorem execute_compare_differs_near_limit :
    let contents : List UInt8 := .replicate 0x7fffffffffffffff 0
    let files := Directory.ofFiles (.ofList [("n", contents)])
    let arguments := ["compare", "n", "-o", "9223372036854775800", "--kind", "int",
      "--op", "eq", "--value", "0"]
    let start := 9223372036854775800
    OnDisk files "n" contents ∧
      parse arguments = some ⟨false, {}, .compare "n" (some start) .int .equalTo "0"⟩ ∧
      ¬ ((execute files arguments).exitCode = 0 ↔
        (∃ z, FieldKind.int.Literal "0" z) ∧ start + FieldKind.int.width ≤ contents.length) := by
  intro contents files arguments start
  have file : OnDisk files "n" contents := Directory.onDisk_single (by decide) contents
  have given : parse arguments
      = some ⟨false, {}, .compare "n" (some start) .int .equalTo "0"⟩ := rfl
  have length : contents.length = 0x7fffffffffffffff := List.length_replicate
  have literal : ∃ z, FieldKind.int.Literal "0" z :=
    ⟨0, Numeral.readInteger?_trim.mp rfl, by decide, by decide⟩
  refine ⟨file, given, fun expected => ?_⟩
  obtain ⟨cause, failed, _⟩ := execute_unread given file (by decide) literal fun served =>
    absurd served.2 (by decide)
  rw [failed] at expected
  exact absurd (expected.mpr ⟨literal, length ▸ by decide⟩) Nat.one_ne_zero

end CommandLine

end ScanFilter
