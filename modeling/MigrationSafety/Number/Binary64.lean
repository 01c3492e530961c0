/-!
# Binary64 numbers

Numbers of the 64-bit binary format, written out as a significand times a power of two, so that
every question about them is one about integers.

* `Binary64.nearest`: the number nearest to a fraction, a tie going to the even significand;
* `Binary64.ofDecimal`: the number that a decimal with an exponent stands for;
* `Binary64.toInt?`, `Binary64.truncate?`: the integer that it is, or that it is cut to.
-/

namespace MigrationSafety

/-- A number of the 64-bit binary format. A finite one is `± significand · 2 ^ exponent`, with the
exponent at least -1074 and, above it, a significand of exactly 53 bits. -/
inductive Binary64 where
  | finite (negative : Bool) (significand : Nat) (exponent : Int)
  | infinite (negative : Bool)
  | notANumber
  deriving DecidableEq, Repr

namespace Binary64

/-- The quotient rounded to the nearest integer, a tie going to the even one. -/
def roundEven (num den : Nat) : Nat :=
  let q := num / den
  let twice := 2 * (num % den)
  if twice < den then q
  else if twice == den && q % 2 == 0 then q
  else q + 1

/-- A power; 1 if the exponent is negative. A fraction is scaled by `base` to an exponent of either
sign by the power of it above and the power of its negation below. -/
def power (base : Nat) (exponent : Int) : Nat :=
  base.pow exponent.toNat

/-- The least exponent of the format. -/
def minExponent : Int := -1074

/-- The greatest exponent of the format. -/
def maxExponent : Int := 971

/-- The number nearest to `± num / den`. -/
def nearest (negative : Bool) (num den : Nat) : Binary64 :=
  if num == 0 then .finite negative 0 minExponent
  else
    let guess : Int := (num.log2 : Int) - den.log2
    let lead := if den * power 2 guess ≤ num * power 2 (-guess) then guess else guess - 1
    let exponent := max (lead - 52) minExponent
    let significand := roundEven (num * power 2 (-exponent)) (den * power 2 exponent)
    let (significand, exponent) :=
      if significand == power 2 53 then (power 2 52, exponent + 1) else (significand, exponent)
    if exponent > maxExponent then .infinite negative
    else .finite negative significand exponent

/-- The number of decimal digits of a natural number; zero has one. -/
def digitCount (n : Nat) : Nat :=
  (Nat.toDigits 10 n).length

/-- The number nearest to `± digits · 10 ^ exponent`. Exponents so large or so small that the
result is infinite or zero whatever the digits are decided first. -/
def ofDecimal (negative : Bool) (digits : Nat) (exponent : Int) : Binary64 :=
  let size := (digitCount digits : Int) + exponent
  if digits == 0 || size < -330 then .finite negative 0 minExponent
  else if size > 330 then .infinite negative
  else nearest negative (digits * power 10 exponent) (power 10 (-exponent))

/-- The integer below the magnitude of a finite number, with the sign put back: the number cut
towards zero. -/
def truncate? : Binary64 → Option Int
  | .finite negative m e =>
    let whole : Int := (m * power 2 e / power 2 (-e) : Nat)
    some (if negative then -whole else whole)
  | _ => none

/-- The integer that a number is equal to. -/
def toInt? : Binary64 → Option Int
  | .finite negative m e =>
    if m % power 2 (-e) == 0 then truncate? (.finite negative m e) else none
  | _ => none

/-- Equality of the numbers that are meant: both zeros are one number, and what is not a number
is not equal to itself. -/
def equal : Binary64 → Binary64 → Bool
  | .finite n m e, .finite n' m' e' => (m == 0 && m' == 0) || (n == n' && m == m' && e == e')
  | .infinite n, .infinite n' => n == n'
  | _, _ => false

/-- Whether a number is a zero. -/
def isZero : Binary64 → Bool
  | .finite _ m _ => m == 0
  | _ => false

end Binary64

end MigrationSafety
