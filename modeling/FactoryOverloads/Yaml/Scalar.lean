import FactoryOverloads.Yaml.Character
import FactoryOverloads.Yaml.Problem
import FactoryOverloads.Yaml.Token
import FactoryOverloads.Yaml.Value

/-!
# What a scalar means

A plain scalar without a tag means a null, a truth value, an integer or a real if it has the form of
one, and a string otherwise. A tag of the core schema asks for one of these forms.

- `Scalar.integer?` and `Scalar.real?` are the forms of numbers.
- `Scalar.plain` and `Scalar.value` give the meaning.
-/

namespace FactoryOverloads.Yaml.Scalar

attribute [local instance (high)] instPowNat

/-- The forms of null. -/
def isNull (text : String) : Bool :=
  text == "null" || text == "Null" || text == "NULL" || text == "~"

/-- The forms of a truth value. -/
def bool? (text : String) : Option Bool :=
  if text == "true" || text == "True" || text == "TRUE" then some true
  else if text == "false" || text == "False" || text == "FALSE" then some false
  else none

/-! ## Integers -/

/-- The number that digits of a base spell. -/
def number? (base : Nat) (digits : List Char) : Option Nat :=
  if digits.isEmpty then none
  else
    digits.foldlM (fun number c =>
      match hexValue? c with
      | some digit => if digit < base then some (base * number + digit) else none
      | none => none) 0

/-- Whether a text is a sign or none and digits that begin with a needless zero. -/
def hasLeadingZero (text : List Char) : Bool :=
  let digits :=
    match text with
    | '-' :: rest => rest
    | '+' :: rest => rest
    | rest => rest
  match digits with
  | '0' :: c :: rest => (c :: rest).all Char.isDigit
  | _ => false

/-- The number of digits after a mark of their base, or of decimal digits. -/
def magnitude? : List Char → Option Nat
  | '0' :: 'x' :: digits => number? 16 digits
  | '0' :: 'o' :: digits => number? 8 digits
  | '0' :: 'b' :: digits => number? 2 digits
  | digits => if hasLeadingZero digits then none else number? 10 digits

/-- The integer a text has the form of, whatever its size. -/
def integer? : List Char → Option Int
  | '-' :: rest => (magnitude? rest).map fun n => -(n : Int)
  | '+' :: rest => (magnitude? rest).map fun n => (n : Int)
  | rest => (magnitude? rest).map fun n => (n : Int)

/-- How an integer can be held. -/
inductive Range where
  /-- In 64 bits. -/
  | word
  /-- In 128 bits but not in 64. -/
  | doubleWord
  | beyond

/-- The range of an integer. -/
def range (n : Int) : Range :=
  if -(2 ^ (63 : Nat)) ≤ n && n < 2 ^ (64 : Nat) then .word
  else if -(2 ^ (127 : Nat)) ≤ n && n < 2 ^ (128 : Nat) then .doubleWord
  else .beyond

/-- The integer of a text. Without the form of one, or beyond 128 bits, the text is not an integer;
one that needs more than 64 bits is refused. -/
def integer (text : String) : Except Problem (Option Int) :=
  match integer? text.toList with
  | none => .ok none
  | some n =>
    match range n with
    | .word => .ok (some n)
    | .doubleWord => .error .integerRange
    | .beyond => .ok none

/-! ## Reals -/

/-- The real a text has the form of. A number too large for a double has not. -/
def real? (text : String) : Option Binary64 :=
  if text == ".nan" || text == ".NaN" || text == ".NAN" then some .nan
  else if text == "-.inf" || text == "-.Inf" || text == "-.INF" then some (.infinite true)
  else
    let unsigned :=
      match text.toList with
      | '+' :: rest =>
        if rest.head? == some '+' || rest.head? == some '-' then none else some rest
      | rest => some rest
    unsigned.bind fun characters =>
      let unsigned := String.ofList characters
      if unsigned == ".inf" || unsigned == ".Inf" || unsigned == ".INF" then some (.infinite false)
      else
        match Binary64.ofText? characters with
        | some (.finite isNegative significand exponent) =>
          some (.finite isNegative significand exponent)
        | _ => none

/-! ## Values -/

/-- The meaning of a plain scalar without a tag. -/
def plain (text : String) : Except Problem Value := do
  if text.isEmpty || isNull text then return .null
  if let some value := bool? text then return .bool value
  if let some value := ← integer text then return .integer value
  if !hasLeadingZero text.toList then
    if let some value := real? text then return .real value
  return .string text

/-- The meaning of a scalar that a tag of the core schema asks to have a form. -/
def required {α : Type} (form : α → Value) : Option α → Except Problem Value
  | some value => .ok (form value)
  | none => .error .scalarForm

/-- The meaning of a scalar whose local tag, if it has one, has been dealt with. -/
def value (tag : Option Tag) (text : String) (isPlain : Bool) : Except Problem Value :=
  match tag with
  | none => if isPlain then plain text else .ok (.string text)
  | some tag =>
    if tag == .core "bool" then required .bool (bool? text)
    else if tag == .core "int" then do required .integer (← integer text)
    else if tag == .core "float" then required .real (real? text)
    else if tag == .core "null" then
      required (fun () => .null) (if isNull text then some () else none)
    else if tag.isLocal && isPlain then plain text
    else .ok (.string text)

end FactoryOverloads.Yaml.Scalar
