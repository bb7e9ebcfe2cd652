/-!
# Binary floating point and decimal text

A double is kept as sign, significand and exponent, so that reading and writing are exact integer
arithmetic.

- `Binary64.ofDecimal` rounds a decimal to the nearest double, a tie to the even significand.
- `Binary64.text` writes the fewest digits that read back, without an exponent and always with a
  point.
-/

namespace FactoryOverloads

attribute [local instance (high)] instPowNat

/-- A double. A finite one is `significand * 2 ^ exponent` with a significand below `2 ^ 53` and an
exponent of at least `-1074`, both as large as the value allows. -/
inductive Binary64 where
  | finite (isNegative : Bool) (significand : Nat) (exponent : Int)
  | infinite (isNegative : Bool)
  | nan
  deriving DecidableEq, Repr

namespace Binary64

/-- The least exponent of a double. -/
def leastExponent : Int := -1074

/-- The greatest exponent of a double. -/
def greatestExponent : Int := 971

/-- Equality as numbers, except that all undefined values are one: both zeros are equal. -/
def same : Binary64 → Binary64 → Bool
  | .finite s m e, .finite t n f => (m == 0 && n == 0) || (s == t && m == n && e == f)
  | .infinite s, .infinite t => s == t
  | .nan, .nan => true
  | _, _ => false

/-- The quotient of two numbers divided by a power of two, and what is left over twice, beside the
divisor. -/
def scaledQuotient (numerator denominator : Nat) (exponent : Int) : Nat × Nat × Nat :=
  let n := numerator * 2 ^ (-exponent).toNat
  let d := denominator * 2 ^ exponent.toNat
  (n / d, 2 * (n % d), d)

/-- The double nearest to a positive fraction. -/
def ofFraction (isNegative : Bool) (numerator denominator : Nat) : Binary64 :=
  let estimate : Int := (numerator.log2 : Int) - denominator.log2 - 52
  let quotientAt (exponent : Int) := (scaledQuotient numerator denominator exponent).1
  let exponent :=
    max leastExponent (if quotientAt estimate < 2 ^ (52 : Nat) then estimate - 1 else estimate)
  let (quotient, twiceRest, divisor) := scaledQuotient numerator denominator exponent
  let roundsUp := divisor < twiceRest || (divisor == twiceRest && quotient % 2 == 1)
  let significand := if roundsUp then quotient + 1 else quotient
  let (significand, exponent) :=
    if significand == 2 ^ (53 : Nat) then (2 ^ (52 : Nat), exponent + 1) else (significand, exponent)
  if greatestExponent < exponent then .infinite isNegative
  else .finite isNegative significand exponent

/-- The double nearest to `digits * 10 ^ exponent`. An exponent that puts the value beyond all
doubles, or below all but zero, is not raised to. -/
def ofDecimal (isNegative : Bool) (digits : Nat) (exponent : Int) : Binary64 :=
  if digits = 0 then .finite isNegative 0 leastExponent
  else
    let size : Int := (toString digits).length + exponent
    if 400 < size then .infinite isNegative
    else if size < -400 then .finite isNegative 0 leastExponent
    else ofFraction isNegative (digits * 10 ^ exponent.toNat) (10 ^ (-exponent).toNat)

/-! ## Reading -/

/-- The number that decimal digits spell. -/
def digitsValue (digits : List Char) : Nat :=
  digits.foldl (fun n c => 10 * n + (c.toNat - '0'.toNat)) 0

/-- The exponent part of a number: empty, or a letter, a sign and digits. -/
def exponentPart? : List Char → Option Int
  | [] => some 0
  | c :: rest =>
    if c == 'e' || c == 'E' then
      let (isNegative, digits) :=
        match rest with
        | '-' :: digits => (true, digits)
        | '+' :: digits => (false, digits)
        | digits => (false, digits)
      if digits.isEmpty || !digits.all Char.isDigit then none
      else some (if isNegative then -(digitsValue digits : Int) else digitsValue digits)
    else none

/-- The double of a number with optional sign, point and exponent. -/
def ofText? (text : List Char) : Option Binary64 :=
  let (isNegative, text) :=
    match text with
    | '-' :: rest => (true, rest)
    | '+' :: rest => (false, rest)
    | rest => (false, rest)
  let whole := text.takeWhile Char.isDigit
  let (fraction, rest) :=
    match text.dropWhile Char.isDigit with
    | '.' :: rest => (rest.takeWhile Char.isDigit, rest.dropWhile Char.isDigit)
    | rest => ([], rest)
  if whole.isEmpty && fraction.isEmpty then none
  else
    (exponentPart? rest).map fun exponent =>
      ofDecimal isNegative (digitsValue (whole ++ fraction)) (exponent - fraction.length)

/-! ## Writing -/

/-- The greatest power of ten that a positive fraction reaches. -/
def decimalExponent (numerator denominator : Nat) : Int :=
  if denominator ≤ numerator then ((toString (numerator / denominator)).length : Int) - 1
  else
    match (List.range 400).find? fun n => denominator ≤ numerator * 10 ^ n with
    | some n => -(n : Int)
    | none => 0

/-- The interval of the reals that round to a double, four times enlarged: its middle and ends as
numerators over one denominator, and whether the ends belong to it. -/
def interval (significand : Nat) (exponent : Int) : Nat × Nat × Nat × Nat × Bool :=
  let up := 2 ^ (exponent - 2).toNat
  let below := if significand == 2 ^ (52 : Nat) && exponent != leastExponent then 1 else 2
  (4 * significand * up, (4 * significand - below) * up, (4 * significand + 2) * up,
    2 ^ (2 - exponent).toNat, significand % 2 == 0)

/-- The multiple of `10 ^ scale` nearest to a double among its two neighbours, if one of them reads
back as that double. -/
def neighbour? (significand : Nat) (exponent scale : Int) : Option Nat :=
  let (middle, low, high, denominator, hasEnds) := interval significand exponent
  let up := 10 ^ (-scale).toNat
  let unit := denominator * 10 ^ scale.toNat
  let floor := middle * up / unit
  let reads (n : Nat) : Bool :=
    if hasEnds then low * up ≤ n * unit && n * unit ≤ high * up
    else low * up < n * unit && n * unit < high * up
  let isNearer := 2 * (middle * up) ≤ (2 * floor + 1) * unit
  match reads floor, reads (floor + 1) with
  | true, true => some (if isNearer then floor else floor + 1)
  | true, false => some floor
  | false, true => some (floor + 1)
  | false, false => none

/-- The fewest digits that read back as a positive double, and the power of ten they count. A double
just below a power of ten may be written as that power. -/
def shortest (significand : Nat) (exponent : Int) : Nat × Int :=
  let (middle, _, _, denominator, _) := interval significand exponent
  let leading := decimalExponent middle denominator
  let found := (List.range 17).findSome? fun (n : Nat) =>
    let scale := leading - (n : Int)
    (neighbour? significand exponent scale).map fun digits =>
      if digits = 10 then (1, scale + 1) else (digits, scale)
  found.getD (0, 0)

/-- `digits * 10 ^ scale` without an exponent, with at least one digit on either side of the
point. -/
def positional (digits : Nat) (scale : Int) : String :=
  let zeros (n : Nat) : String := String.ofList (List.replicate n '0')
  if 0 ≤ scale then toString digits ++ zeros scale.toNat ++ ".0"
  else
    let places := (-scale).toNat
    let text := (toString digits).toList
    let padded := List.replicate (places + 1 - text.length) '0' ++ text
    let whole := padded.take (padded.length - places)
    String.ofList (whole ++ '.' :: padded.drop (padded.length - places))

/-- The text of a double. -/
def text : Binary64 → String
  | .nan => "NaN"
  | .infinite isNegative => if isNegative then "-inf" else "inf"
  | .finite isNegative significand exponent =>
    let sign := if isNegative then "-" else ""
    if significand = 0 then sign ++ "0.0"
    else
      let (digits, scale) := shortest significand exponent
      sign ++ positional digits scale

end Binary64

end FactoryOverloads
