/-!
# Causes of failures

What goes wrong beneath the failures of a run, each cause with the text it is reported with.

- `Defect`: a partial operation is used outside its domain, which stops the run.
- `OsError`: the operating system refuses an operation on a path.
-/

namespace FactoryOverloads

/-- A use of a partial operation outside its domain. -/
inductive Defect where
  /-- A partition was asked for more positions than it can hold. -/
  | arityLimit (arity : Nat)
  /-- A marker was asked for at a position the partition does not have. -/
  | position
  /-- A power of two does not fit a machine word. -/
  | shift
  /-- A call refers to an explicit argument that the plan does not have. -/
  | argument (length index : Nat)
  deriving DecidableEq, Repr

/-- The text a run stops with. -/
def Defect.message : Defect → String
  | .arityLimit arity => s!"arity {arity} exceeds the partition limit of 32"
  | .position => "assertion failed: position < self.arity"
  | .shift => "attempt to shift left with overflow"
  | .argument length index => s!"index out of bounds: the len is {length} but the index is {index}"

/-- A reason for which an operation on a path fails. -/
inductive OsError where
  | noEntry
  | notDirectory
  | isDirectory
  | nameTooLong
  | busy
  | invalidArgument
  /-- A path holds the character that ends one. -/
  | embeddedNul
  /-- A file that should hold text does not. -/
  | invalidText
  /-- The system refuses for a reason that paths and entries do not show, such as a full medium. -/
  | system (text : String)
  deriving DecidableEq, Repr

/-- The text of an error. -/
def OsError.message : OsError → String
  | .noEntry => "No such file or directory (os error 2)"
  | .notDirectory => "Not a directory (os error 20)"
  | .isDirectory => "Is a directory (os error 21)"
  | .nameTooLong => "File name too long (os error 36)"
  | .busy => "Device or resource busy (os error 16)"
  | .invalidArgument => "Invalid argument (os error 22)"
  | .embeddedNul => "file name contained an unexpected NUL byte"
  | .invalidText => "stream did not contain valid UTF-8"
  | .system text => text

end FactoryOverloads
