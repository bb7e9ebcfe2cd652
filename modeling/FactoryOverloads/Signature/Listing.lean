import FactoryOverloads.Signature
import FactoryOverloads.Target.Bindings

/-!
# Listings of plans

A listing shows the plans of an arity as a table: the pattern, the key, the explicit arguments and
the constructor call of each. All columns but the last are as wide as their widest cell.
-/

namespace FactoryOverloads.Listing

/-- What a listing shows for a slot. -/
def slotText : Slot → String
  | .explicitRef index => argumentName index
  | .injectedResolve position => "resolve<" ++ injectedTypeParameter position ++ ">"

/-- Items in parentheses. -/
def parenthesized (items : List String) : String := "(" ++ commaSeparated items ++ ")"

/-- The cells of a plan. -/
structure Row where
  pattern : String
  key : String
  arguments : String
  call : String
  deriving DecidableEq, Repr

/-- The row of a plan. -/
def Row.ofPlan (plan : Plan) : Row where
  pattern := plan.partition.text
  key := plan.key.text
  arguments := parenthesized plan.explicitArguments
  call := parenthesized (plan.call.map slotText)

/-- The number of characters of the widest cell. -/
def width (cells : List String) : Nat := cells.foldl (fun widest cell => max widest cell.length) 0

/-- A cell with blanks behind it up to a width. -/
def padded (width : Nat) (cell : String) : String :=
  cell ++ String.ofList (List.replicate (width - cell.length) ' ')

/-- The widths of the columns before the call. -/
structure Widths where
  pattern : Nat
  key : Nat
  arguments : Nat
  deriving DecidableEq, Repr

/-- The widths that rows need. -/
def Widths.ofRows (rows : List Row) : Widths where
  pattern := width (rows.map Row.pattern)
  key := width (rows.map Row.key)
  arguments := width (rows.map Row.arguments)

/-- The line of a row. -/
def Row.text (widths : Widths) (row : Row) : String :=
  "  " ++ padded widths.pattern row.pattern ++ "  " ++ padded widths.key row.key ++ "  " ++
    padded widths.arguments row.arguments ++ "  -> " ++ row.call

/-- The listing of the plans of an arity: a heading, and after an empty line a line for every
plan. -/
def text (arity : Nat) (plans : List Plan) : String :=
  let rows := plans.map Row.ofPlan
  let widths := Widths.ofRows rows
  "Arity " ++ toString arity ++ ": " ++ toString plans.length ++ " overloads\n" ++
    String.join (rows.map fun row => "\n" ++ row.text widths)

end FactoryOverloads.Listing
