import MigrationSafety.Number.Binary64

/-!
# Shortest decimals

The text of a binary64 number: the fewest decimal digits that read back as the same number, and of
those the ones nearest to it.

* `Binary64.shortest`: digits and the exponent of ten of the last one;
* `Binary64.display`: the text, positional from 10⁻⁴ to below 10¹⁶ and with an exponent of at
  least two digits elsewhere; a whole number keeps `.0`.
-/

namespace MigrationSafety.Binary64

/-- The exponent of the first decimal digit of `num / den`, a positive fraction: the `e` with
`10 ^ e ≤ num / den < 10 ^ (e + 1)`. -/
def decimalExponent (num den : Nat) : Int :=
  if den ≤ num then (digitCount (num / den) : Int) - 1
  else
    let guess := digitCount (den / num)
    if den ≤ num * power 10 (guess - 1) then -((guess : Int) - 1) else -(guess : Int)

/-- What a search for digits goes by: the number and the ends of the interval of reals that round
to it, over one denominator, and whether the ends belong to it. -/
structure RoundingInterval where
  low : Nat
  value : Nat
  high : Nat
  den : Nat
  closed : Bool

/-- The interval of reals that round to a finite number. Below a power of two the numbers lie
twice as close, so the lower end is half as far away. -/
def roundingInterval (significand : Nat) (exponent : Int) : RoundingInterval :=
  let scale := power 2 exponent
  let below := if significand == power 2 52 && exponent > minExponent then 1 else 2
  { low := (4 * significand - below) * scale
    value := 4 * significand * scale
    high := (4 * significand + 2) * scale
    den := 4 * power 2 (-exponent)
    closed := significand % 2 == 0 }

/-- Whether `digits · 10 ^ exponent` lies in the interval. -/
def RoundingInterval.contains (r : RoundingInterval) (digits : Nat) (exponent : Int) : Bool :=
  let point := digits * power 10 exponent * r.den
  let scale := power 10 (-exponent)
  if r.closed then r.low * scale ≤ point && point ≤ r.high * scale
  else r.low * scale < point && point < r.high * scale

/-- The neighbour of the number on the grid of multiples of `10 ^ exponent` that lies in the
interval; of two such neighbours the nearer one, and the even one at the same distance. -/
def RoundingInterval.onGrid? (r : RoundingInterval) (exponent : Int) : Option Nat :=
  let num := r.value * power 10 (-exponent)
  let den := r.den * power 10 exponent
  let below := num / den
  match r.contains below exponent, r.contains (below + 1) exponent with
  | true, true => some (roundEven num den)
  | true, false => some below
  | false, true => some (below + 1)
  | false, false => none

/-- Moves zeros at the end of the digits into the exponent of ten; `fuel` bounds their number. -/
def dropZeros : (fuel digits : Nat) → (exponent : Int) → Nat × Int
  | 0, digits, exponent => (digits, exponent)
  | fuel + 1, digits, exponent =>
    if digits != 0 && digits % 10 == 0 then dropZeros fuel (digits / 10) (exponent + 1)
    else (digits, exponent)

/-- The fewest decimal digits, and the exponent of ten of the last one, that read back as the positive
number `significand · 2 ^ exponent`. Seventeen digits always do. -/
def shortest (significand : Nat) (exponent : Int) : Nat × Int :=
  let r := roundingInterval significand exponent
  let first := decimalExponent r.value r.den
  let grids := (List.range 17).map fun (n : Nat) => first - n
  match grids.findSome? fun place => (r.onGrid? place).map (·, place) with
  | some (digits, place) => dropZeros 17 digits place
  | none => (roundEven r.value r.den, 0)

/-- The decimal digits of a natural number. -/
def digitChars (n : Nat) : List Char :=
  Nat.toDigits 10 n

/-- The text of digits whose decimal point stands behind the first `point` of them. -/
def positional (digits : List Char) (point : Int) : List Char :=
  if point ≤ 0 then '0' :: '.' :: (List.replicate (-point).toNat '0' ++ digits)
  else if (digits.length : Int) ≤ point then
    digits ++ List.replicate (point.toNat - digits.length) '0' ++ ['.', '0']
  else digits.take point.toNat ++ '.' :: digits.drop point.toNat

/-- The text of digits with an exponent. -/
def scientific (digits : List Char) (exponent : Int) : List Char :=
  let mantissa :=
    match digits with
    | [] => []
    | [d] => [d]
    | d :: rest => d :: '.' :: rest
  let size := digitChars exponent.natAbs
  mantissa ++ 'e' :: (if exponent < 0 then '-' else '+') ::
    (List.replicate (2 - size.length) '0' ++ size)

/-- The text of a number. -/
def display : Binary64 → String
  | .notANumber => "nan"
  | .infinite negative => if negative then "-inf" else "inf"
  | .finite negative m e =>
    let (digits, place) := if m == 0 then (0, 0) else shortest m e
    let chars := digitChars digits
    let point := (chars.length : Int) + place
    let text :=
      if -4 < point && point ≤ 16 then positional chars point else scientific chars (point - 1)
    String.ofList (if negative then '-' :: text else text)

end MigrationSafety.Binary64
