import ScanFilter.Proofs.CommandLine.Comparing
import ScanFilter.Proofs.Comparison.Doubles
import ScanFilter.Proofs.Value.RoundTrip
/-!
# What a command shows of a double, a comparison recognises

The text that a command prints of a double in a file can be given back as a literal, and
the double is then compared with itself.  So a comparison at the same place says that the
two are equal, and that neither is less; but of a NaN, which equals nothing, it only says
that the two are not equal.  The two commands read the same bytes, since each makes one
read of a new reader: they need not even be set up alike, as long as the second one can
ask for a buffer full at the end of the file.

* `holds_compare_alike` — which comparisons hold of a double and what its text is read as;
* `parseLiteral_text` — the text of a double is a literal for it;
* `run_compare_text` — a comparison with the text of what its read finds;
* `double_recognised` — a command that shows a double and those that compare it.
-/

namespace ScanFilter

/-- Whether a comparison holds of a double and itself: that they are equal and that
neither is less, unless the double is a NaN, of which it only holds that they differ. -/
def ComparisonOperator.ofItself (nan : Bool) : ComparisonOperator → Bool
  | equalTo | lessThanEqualTo | greaterThanEqualTo => !nan
  | notEquals => nan
  | lessThan | greaterThan => false

/-- A double compares with what its text is read as like with itself. -/
theorem Binary64.holds_compare_alike {x y : Binary64} (h : x.Alike y)
    (op : ComparisonOperator) : op.holds (x.compare y) = op.ofItself x.isNaN := by
  cases number : x.isNaN with
  | false =>
      rcases h with rfl | ⟨nan, _⟩
      · rw [compare_self number]
        cases op <;> rfl
      · rw [number] at nan
        cases nan
  | true =>
      rw [(compare_eq_none_iff x y).mpr (.inl number)]
      cases op <;> rfl

/-- The text of a double is a literal for it, up to the word of a NaN. -/
theorem FieldKind.parseLiteral_text (x : Binary64) :
    ∃ y, double.parseLiteral (TypedValue.double x).text = .ok (.double y) ∧ x.Alike y := by
  obtain ⟨y, read, alike⟩ := TypedValue.asDouble_text x
  refine ⟨y, ?_, alike⟩
  rw [parseLiteral, TypedValue.text, TypedValue.double, Payload.text, read]
  rfl

/-- The value of a double field is the double whose word its bytes are. -/
theorem FieldKind.value_double {found : List UInt8} (length : found.length = double.width) :
    ∃ x, double.value found = .double x ∧ x.bits.toNat = Bytes.ofBigEndian found := by
  have decodes : ReadForm.double.Decodes found _ := ReadForm.decodes_decode length
  obtain ⟨x, same, word⟩ := decodes
  cases same
  exact ⟨_, rfl, word⟩

namespace CommandLine

variable {σ : Type} [FileStore σ] {files : σ} {path : String} {offset : Option Nat}
  {contents found : List UInt8} {config config' : ReaderConfig}

/-- A command that compares a double with the text of what its read finds compares the
double with itself. -/
theorem run_compare_text {r : Reader σ} {x : Binary64}
    (read : (r.fetch path offset 8).1 = .ok found)
    (value : FieldKind.double.value found = .double x) (op : ComparisonOperator) :
    (Command.compare path offset .double op (TypedValue.double x).text).run r
      = .ok (truthText (op.ofItself x.isNaN) ++ "\n") := by
  obtain ⟨y, literal, alike⟩ := FieldKind.parseLiteral_text x
  have field : (r.readField path offset .double).1 = .ok (.double x) := by
    rw [Reader.readField_eq, FieldKind.width, read, ← value]
    rfl
  have holds : comparisonHolds op (.double x) (.double y) = .ok (op.ofItself x.isNaN) := by
    rw [← Binary64.holds_compare_alike alike, comparisonHolds_of_not_null rfl rfl]
    exact compareValues_doubles op x y
  have compared : (r.compareField path offset .double op (.double y)).1
      = .ok (op.ofItself x.isNaN) := by
    rw [Reader.compareField_of_ok field, holds]
    rfl
  simp only [Command.run, literal, compared]

/-- What one new reader finds another one finds too, if it is set up alike or can ask for
a buffer full at the end of the file. -/
theorem fetch_again (file : OnDisk files path contents)
    (read : ((Reader.new files config).fetch path offset 8).1 = .ok found)
    (served : config' = config ∨
      contents.length + config'.bufferCapacity < 0x8000000000000000) :
    ((Reader.new files config').fetch path offset 8).1 = .ok found := by
  rcases served with rfl | room
  · exact read
  · obtain ⟨covered, rfl⟩ := Source.slice_eq_ok_iff.mp (Reader.slice_of_fetch_new file read)
    have again := Reader.fetch_new file config' offset 8
    simp only at again
    rwa [if_pos (by omega)] at again

/-- **What a command shows of a double, a comparison recognises.**  The text of any double
is a literal for it.  So take a file on disk and a command that succeeds to show a double
of it.  What is printed is the text of the double whose word the eight bytes are, and
every command that compares the double at this place with the text succeeds: it prints
true just for the comparisons that hold of the double and itself, of a NaN that it is
unequal and of any other that it is equal, less or equal, and greater or equal.  For this
the two commands are set up alike, or the second one can ask for a buffer full at the end
of the file. -/
theorem double_recognised (files : σ) (path : String) (offset : Option Nat) :
    (∀ x : Binary64, ∃ y,
      FieldKind.double.parseLiteral (TypedValue.double x).text = .ok (.double y) ∧
        x.Alike y) ∧
    ∀ contents shown debug config, OnDisk files path contents →
      parse shown = some ⟨debug, config, .field path offset .double⟩ →
      (execute files shown).exitCode = 0 →
      ∃ x : Binary64,
        x.bits.toNat = Bytes.ofBigEndian ((contents.drop (offset.getD 0)).take 8) ∧
        (execute files shown).output = (TypedValue.double x).text ++ "\n" ∧
        ∀ op arguments debug' config',
          config' = config ∨ contents.length + config'.bufferCapacity < 0x8000000000000000 →
          parse arguments = some ⟨debug', config',
            .compare path offset .double op (TypedValue.double x).text⟩ →
          execute files arguments
            = .succeeded (truthText (op.ofItself x.isNaN) ++ "\n") := by
  refine ⟨FieldKind.parseLiteral_text, ?_⟩
  intro contents shown debug config file given success
  have ran := run_field (Reader.new files config) path offset .double
  rcases read : ((Reader.new files config).fetch path offset 8).1 with e | found
  · rw [FieldKind.width, read] at ran
    rw [execute_of_error given ran] at success
    cases success
  · rw [FieldKind.width, read] at ran
    obtain ⟨covered, span⟩ := Source.slice_eq_ok_iff.mp (Reader.slice_of_fetch_new file read)
    have length : found.length = FieldKind.double.width := by
      rw [span, List.length_take, List.length_drop, FieldKind.width]
      omega
    obtain ⟨x, value, word⟩ := FieldKind.value_double length
    refine ⟨x, span ▸ word, ?_, ?_⟩
    · rw [execute_of_ok given ran, ← value]
      rfl
    · intro op arguments debug' config' served given'
      exact execute_of_ok given' (run_compare_text (fetch_again file read served) value op)

/-- A directory with a file of a zero with a minus sign and then a NaN. -/
def zeroAndNaN : Directory :=
  .ofFiles (.ofList [("n", [0x80, 0, 0, 0, 0, 0, 0, 0, 0x7f, 0xf8, 0, 0, 0, 0, 0, 1])])

/-- A zero with a minus sign is equal to its text, and a NaN is not even as large. -/
theorem double_recognised_zero_and_NaN :
    execute zeroAndNaN ["compare", "n", "--kind", "double", "--op", "eq", "--value", "-0"]
      = .succeeded "true\n" ∧
    execute zeroAndNaN
      ["compare", "n", "-o", "8", "--kind", "double", "--op", "ge", "--value", "NaN"]
      = .succeeded "false\n" := by
  have file : OnDisk zeroAndNaN "n"
      [0x80, 0, 0, 0, 0, 0, 0, 0, 0x7f, 0xf8, 0, 0, 0, 0, 0, 1] :=
    Directory.onDisk_single (by decide) _
  constructor
  · obtain ⟨x, word, _, compared⟩ := (double_recognised zeroAndNaN "n" none).2 _ ["double", "n"]
      false {} file rfl (by decide +kernel)
    have zero : x = ⟨0x8000000000000000⟩ := congrArg Binary64.mk (UInt64.toNat_inj.mp word)
    subst zero
    exact compared .equalTo _ false {} (.inl rfl) rfl
  · obtain ⟨x, word, _, compared⟩ := (double_recognised zeroAndNaN "n" (some 8)).2 _
      ["double", "n", "-o", "8"] false {} file rfl (by decide +kernel)
    have nan : x = ⟨0x7ff8000000000001⟩ := congrArg Binary64.mk (UInt64.toNat_inj.mp word)
    subst nan
    exact compared .greaterThanEqualTo _ false {} (.inl rfl) rfl

end CommandLine

end ScanFilter
