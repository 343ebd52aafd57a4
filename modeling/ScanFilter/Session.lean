import ScanFilter.Expr.Evaluation
import ScanFilter.Field
/-!
# Sessions

A session is a run of steps on one reader: reads, comparisons, filters over
fields, finishing, and changes to the store between them.  Every step has an
outcome, and after it an observer can ask which paths are cached.

* `Reader.step` — the outcome of a step, and the reader after it;
* `Reader.run`, `Reader.after` — the outcomes of a run, and the reader after it.
-/

namespace ScanFilter

/-- One step of a session. -/
inductive Step
  | bytes (path : String) (offset : Option Nat) (length : Nat)
  | int (path : String) (offset : Option Nat)
  | long (path : String) (offset : Option Nat)
  | double (path : String) (offset : Option Nat)
  | field (path : String) (offset : Option Nat) (kind : FieldKind)
  | compare (path : String) (offset : Option Nat) (kind : FieldKind)
      (op : ComparisonOperator) (literal : TypedValue)
  | filter (path : String) (fields : List (FieldKind × Option Nat)) (filter : Expr)
  | finish
  | insert (path : String) (contents : List UInt8)
  | insertDirectory (path : String)
  | remove (path : String)
  /-- Opens a file past the handles and reads all of it. -/
  | readWhole (path : String)

/-- The path that a step names. -/
def Step.path? : Step → Option String
  | bytes path .. | int path _ | long path _ | double path _ | field path ..
  | compare path .. | filter path .. | insert path _ | insertDirectory path
  | remove path | readWhole path => some path
  | finish => none

/-- What a step gives. -/
inductive Outcome
  | done
  | bytes (bytes : List UInt8)
  | int (n : Int32)
  | long (n : Int64)
  | double (x : Binary64)
  | value (v : TypedValue)
  | truth (b : Bool)
  | failed (error : ProbeError)
  /-- A file could not be opened or read past the handles. -/
  | unopened (cause : IoError)

/-- The outcome of a result that may have failed. -/
def Outcome.ofResult {α : Type} (ok : α → Outcome) : Except ProbeError α → Outcome
  | .ok a => ok a
  | .error e => failed e

/-- The outcome of a read. -/
def Outcome.ofRead {α : Type} (ok : α → Outcome) : Except StorageError α → Outcome
  | .ok a => ok a
  | .error e => failed (.storage e)

namespace Reader

variable {σ : Type} [FileStore σ]

/-- Reads fields into a row and filters it. -/
def filterFields (r : Reader σ) (path : String) (fields : List (FieldKind × Option Nat))
    (filter : Expr) : Except ProbeError Bool × Reader σ :=
  match r.readFields path fields with
  | (.error e, r) => (.error (.storage e), r)
  | (.ok row, r) => ((filter.matchesRow row).mapError .filter, r)

/-- Takes one step. -/
def step (r : Reader σ) : Step → Outcome × Reader σ
  | .bytes path offset length =>
    let (result, r) := r.readBytes path offset length
    (.ofRead .bytes result, r)
  | .int path offset =>
    let (result, r) := r.readInt path offset
    (.ofRead .int result, r)
  | .long path offset =>
    let (result, r) := r.readLong path offset
    (.ofRead .long result, r)
  | .double path offset =>
    let (result, r) := r.readDouble path offset
    (.ofRead .double result, r)
  | .field path offset kind =>
    let (result, r) := r.readField path offset kind
    (.ofRead .value result, r)
  | .compare path offset kind op literal =>
    let (result, r) := r.compareField path offset kind op literal
    (.ofResult .truth result, r)
  | .filter path fields filter =>
    let (result, r) := r.filterFields path fields filter
    (.ofResult .truth result, r)
  | .finish => (.done, r.finish)
  | .insert path contents => (.done, { r with store := FileStore.insert r.store path contents })
  | .insertDirectory path =>
    (.done, { r with store := FileStore.insertDirectory r.store path })
  | .remove path => (.done, { r with store := FileStore.remove r.store path })
  | .readWhole path =>
    match r.readWhole path with
    | (.ok bytes, r) => (.bytes bytes, r)
    | (.error e, r) => (.unopened e, r)

/-- The reader after a run of steps. -/
def after (r : Reader σ) (steps : List Step) : Reader σ :=
  steps.foldl (fun r s => (r.step s).2) r

/-- A run of steps: the outcome of each, and the reader after it. -/
def run (r : Reader σ) : List Step → List (Outcome × Reader σ)
  | [] => []
  | s :: steps => r.step s :: (r.step s).2.run steps

theorem after_append (r : Reader σ) (first second : List Step) :
    r.after (first ++ second) = (r.after first).after second :=
  List.foldl_append ..

end Reader

end ScanFilter
