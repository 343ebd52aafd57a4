import ScanFilter.Field
/-!
# Command-line arguments

An invocation is a setting or two, the name of a command, and the arguments of
that command: options in any order around one path.  The value of an option
stands in the next argument or is attached to it; a value that starts with a
hyphen must be attached, unless the option is one whose values may.  After a
double hyphen everything is a path.  No option may be given twice.

* `parse` — the invocation of a list of arguments, or nothing when they are
  rejected;
* `scan` — the arguments of a command, sorted into options and operands.
-/

namespace ScanFilter.CommandLine

/-- The options that take a value. -/
inductive OptionName
  | bufferCapacity | offset | length | kind | op | value
  deriving DecidableEq

namespace OptionName

/-- The long name of an option. -/
def long : OptionName → String
  | bufferCapacity => "buffer-capacity"
  | offset => "offset"
  | length => "length"
  | kind => "kind"
  | op => "op"
  | value => "value"

/-- The one-letter name of an option, if it has one. -/
def short? : OptionName → Option Char
  | offset => some 'o'
  | length => some 'l'
  | kind => some 'k'
  | _ => none

/-- Whether a text may stand in the argument after an option.  A text that looks
like an option may only follow an option whose values may start with a
hyphen. -/
def takes (name : OptionName) (text : String) : Bool :=
  name == value ||
    match text.toList with
    | '-' :: _ :: _ => false
    | _ => true

end OptionName

/-- What a single argument is. -/
inductive Word
  /-- The double hyphen. -/
  | terminator
  /-- An option, with the value that is attached to it. -/
  | option (name : OptionName) (attached : Option String)
  /-- A text that is no option. -/
  | operand
  /-- An option that is not known here. -/
  | unknown

/-- Tells what an argument is where some options are allowed. -/
def Word.ofText (allowed : List OptionName) (text : String) : Word :=
  let found (name? : Option OptionName) (attached : Option (List Char)) : Word :=
    match name? with
    | some name => option name (attached.map String.ofList)
    | none => unknown
  match text.toList with
  | ['-', '-'] => terminator
  | '-' :: '-' :: cs =>
    let name := String.ofList (cs.takeWhile (· != '='))
    found (allowed.find? (·.long == name))
      (match cs.dropWhile (· != '=') with
        | [] => none
        | _ :: attached => some attached)
  | '-' :: c :: cs =>
    found (allowed.find? (·.short? == some c))
      (match cs with
        | [] => none
        | '=' :: attached => some attached
        | attached => some attached)
  | _ => operand

/-- Arguments sorted into options and operands. -/
structure Words where
  options : List (OptionName × String)
  operands : List String

/-- Sorts arguments, where some options are allowed. -/
def scan (allowed : List OptionName) : List String → Option Words
  | [] => some ⟨[], []⟩
  | text :: rest =>
    match Word.ofText allowed text with
    | .terminator => some ⟨[], rest⟩
    | .unknown => none
    | .operand =>
      (scan allowed rest).map fun w => { w with operands := text :: w.operands }
    | .option name (some attached) =>
      (scan allowed rest).map fun w => { w with options := (name, attached) :: w.options }
    | .option name none =>
      match rest with
      | [] => none
      | next :: rest =>
        if name.takes next then
          (scan allowed rest).map fun w => { w with options := (name, next) :: w.options }
        else none

namespace Words

/-- The single operand. -/
def operand? (w : Words) : Option String :=
  match w.operands with
  | [text] => some text
  | _ => none

/-- The values that an option was given. -/
def values (w : Words) (name : OptionName) : List String :=
  (w.options.filter (·.1 == name)).map Prod.snd

/-- The value of an option that must be given once, read by some rule. -/
def required? {α : Type} (w : Words) (name : OptionName) (read? : String → Option α) :
    Option α :=
  match w.values name with
  | [text] => read? text
  | _ => none

/-- The value of an option that may be given once; nothing inside when it is not
given. -/
def optional? {α : Type} (w : Words) (name : OptionName) (read? : String → Option α) :
    Option (Option α) :=
  match w.values name with
  | [] => some none
  | [text] => (read? text).map some
  | _ => none

end Words

/-- Reads an unsigned number of 64 bits: digits, and a plus sign in front when
there is one. -/
def readUnsigned? (text : String) : Option Nat :=
  let ds := match text.toList with
    | '+' :: ds => ds
    | ds => ds
  if ds ≠ [] ∧ ds.all Char.isDigit ∧ Numeral.natural ds < 0x10000000000000000 then
    some (Numeral.natural ds)
  else none

/-- Reads the name of a kind of field. -/
def readKind? : String → Option FieldKind
  | "int" => some .int
  | "long" => some .long
  | "double" => some .double
  | _ => none

/-- Reads the short name of a comparison. -/
def readComparison? : String → Option ComparisonOperator
  | "eq" => some .equalTo
  | "ne" => some .notEquals
  | "lt" => some .lessThan
  | "le" => some .lessThanEqualTo
  | "gt" => some .greaterThan
  | "ge" => some .greaterThanEqualTo
  | _ => none

/-- What to do with a file. -/
inductive Command
  /-- Show a range of bytes. -/
  | bytes (path : String) (offset : Option Nat) (length : Nat)
  /-- Show a field. -/
  | field (path : String) (offset : Option Nat) (kind : FieldKind)
  /-- Compare a field with a literal. -/
  | compare (path : String) (offset : Option Nat) (kind : FieldKind)
      (op : ComparisonOperator) (literal : String)
  deriving DecidableEq

/-- The path that a command works on. -/
def Command.path : Command → String
  | bytes path .. => path
  | field path .. => path
  | compare path .. => path

/-- Reads the arguments of a command that shows a field. -/
def Command.field? (kind : FieldKind) (arguments : List String) : Option Command := do
  let w ← scan [.offset] arguments
  return field (← w.operand?) (← w.optional? .offset readUnsigned?) kind

/-- Reads a command and its arguments. -/
def Command.parse (name : String) (arguments : List String) : Option Command :=
  match name with
  | "bytes" => do
    let w ← scan [.offset, .length] arguments
    return bytes (← w.operand?) (← w.optional? .offset readUnsigned?)
      (← w.required? .length readUnsigned?)
  | "int" => field? .int arguments
  | "long" => field? .long arguments
  | "double" => field? .double arguments
  | "compare" => do
    let w ← scan [.offset, .kind, .op, .value] arguments
    return compare (← w.operand?) (← w.optional? .offset readUnsigned?)
      (← w.required? .kind readKind?) (← w.required? .op readComparison?)
      (← w.required? .value some)
  | _ => none

/-- A command and the settings in front of it. -/
structure Invocation where
  debug : Bool
  config : ReaderConfig
  command : Command

/-- Reads an invocation after some settings were read. -/
def parseAfter (debug : Bool) (capacity : Option Nat) : List String → Option Invocation
  | [] => none
  | text :: rest =>
    if text = "-d" ∨ text = "--debug" then
      if debug then none else parseAfter true capacity rest
    else
      match Word.ofText [.bufferCapacity] text with
      | .operand =>
        (Command.parse text rest).map fun command =>
          { debug
            config := capacity.elim {} fun n => { bufferCapacity := n }
            command }
      | .option name attached =>
        if capacity.isSome then none
        else
          match attached, rest with
          | some value, rest => do parseAfter debug (some (← readUnsigned? value)) rest
          | none, value :: rest =>
            if name.takes value then do
              parseAfter debug (some (← readUnsigned? value)) rest
            else none
          | none, [] => none
      | .terminator | .unknown => none

/-- Reads an invocation; nothing when the arguments are rejected. -/
def parse (arguments : List String) : Option Invocation := parseAfter false none arguments

end ScanFilter.CommandLine
