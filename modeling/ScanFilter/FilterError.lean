import ScanFilter.Operator
import ScanFilter.Plan.Fault
import ScanFilter.Value.Text
/-!
# Errors of filter evaluation

An error holds its cause.  The wording is in one function for each kind of
cause.

* `FilterError.message` — the message of an error.
-/

namespace ScanFilter

/-- What a value can be read as. -/
inductive Target
  | string | short | int | long | double | decimal | time | boolean
  deriving DecidableEq

/-- The name of a reading in messages. -/
def Target.name : Target → String
  | string => "string"
  | short => "short"
  | int => "int"
  | long => "long"
  | double => "double"
  | decimal => "decimal"
  | time => "time"
  | boolean => "boolean"

/-- Why a value is no legal member of its place. -/
inductive MemberFault
  /-- A null was read. -/
  | null (target : Target)
  /-- The payload does not fit the declared type. -/
  | mismatched (payload : Payload)
  /-- The payload cannot be read as the target. -/
  | unconvertible (payload : Payload) (target : Target)
  /-- The filter of this description gave something other than a truth value. -/
  | notBoolean (filter : String)
  deriving DecidableEq

/-- The message of a fault. -/
def MemberFault.message : MemberFault → String
  | null target => "cannot read NULL as " ++ target.name
  | mismatched payload => "value " ++ payload.markedText ++ " does not match declared type"
  | unconvertible payload target =>
    "cannot convert " ++ payload.markedText ++ " to " ++ target.name
  | notBoolean filter => "filter " ++ filter ++ " did not produce a boolean"

/-- Why a filter has no outcome. -/
inductive FilterError
  /-- The node has no meaning for operands of this type. -/
  | unsupportedType (dataType : DataType) (operator : NodeKind)
  /-- A value of this declared type is no legal member of its place. -/
  | illegalMember (dataType : DataType) (fault : MemberFault)
  /-- A column past the end of the row. -/
  | columnOutOfBounds (index rowSize : Nat)
  /-- Plan bytes that hold no expression. -/
  | codec (fault : Plan.Fault)
  deriving DecidableEq

/-- The message of an error. -/
def FilterError.message : FilterError → String
  | unsupportedType dataType operator =>
    "Data type " ++ dataType.name ++ " not supported for filter expression "
      ++ operator.name
  | illegalMember dataType fault =>
    "Illegal member for data type " ++ dataType.name ++ ": " ++ fault.message
  | columnOutOfBounds index rowSize =>
    s!"Column index {index} out of bounds for row with {rowSize} columns"
  | codec fault => "Expression codec error: " ++ fault.message

end ScanFilter
