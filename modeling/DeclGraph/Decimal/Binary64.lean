/-!
Double-precision numbers, held exactly.

Every finite number of this format is a whole multiple of the smallest positive one, so a number is
a sign and a count of those units. Rounding a fraction to the format takes one division.
-/

namespace DeclGraph

/-- The quotient rounded to the nearest whole number; a half goes to the even neighbour. -/
def roundDiv (num den : Nat) : Nat :=
  let quotient := num / den
  let twice := 2 * (num % den)
  if twice < den ∨ (twice = den ∧ quotient % 2 = 0) then quotient else quotient + 1

/-- A double-precision number. A finite one is `units` times `2 ^ -1074`. -/
inductive Binary64 where
  | nan
  | infinite (negative : Bool)
  | finite (negative : Bool) (units : Nat)
deriving DecidableEq, Repr

namespace Binary64

/-- One is this power of two in units. -/
def unitBits : Nat := 1074

/-- One, in units. -/
def unitOne : Nat := Nat.pow 2 unitBits

/-- Finite numbers stay below `2 ^ 1024`. -/
def unitLimit : Nat := Nat.pow 2 (1024 + unitBits)

/-- The distance, in units, between neighbouring numbers of about this size. A significand has
53 bits. -/
def spacing (units : Nat) : Nat := Nat.pow 2 (Nat.log2 units - 52)

/-- The number nearest to a fraction. -/
def ofRatio (negative : Bool) (num den : Nat) : Binary64 :=
  let scaled := num * unitOne
  let step := spacing (scaled / den)
  let units := roundDiv scaled (den * step) * step
  if units < unitLimit then finite negative units else infinite negative

/-- The number nearest to `digits * 10 ^ exponent`. Exponents far outside the format are settled by
the count of digits, before a power of ten is formed. -/
def ofDecimal (negative : Bool) (digits : Nat) (exponent : Int) : Binary64 :=
  let size := exponent + (toString digits).length
  if digits = 0 ∨ size < -400 then finite negative 0
  else if size > 400 then infinite negative
  else if 0 ≤ exponent then ofRatio negative (digits * Nat.pow 10 exponent.toNat) 1
  else ofRatio negative digits (Nat.pow 10 (-exponent).toNat)

/-- A finite number in units. -/
def signedUnits (negative : Bool) (units : Nat) : Int := if negative then -units else units

def ofNat (n : Nat) : Binary64 := ofRatio false n 1

def isInfinite : Binary64 → Bool
  | infinite _ => true
  | _ => false

/-- The number is less than a whole number. -/
def isBelow (n : Int) : Binary64 → Bool
  | nan => false
  | infinite negative => negative
  | finite negative units => signedUnits negative units < n * unitOne

def isZero : Binary64 → Bool
  | finite _ units => units == 0
  | _ => false

/-- The whole number that a number is equal to, if there is one. -/
def toInt? : Binary64 → Option Int
  | finite negative units =>
    if units % unitOne = 0 then
      let n : Int := (units / unitOne : Nat)
      some (if negative then -n else n)
    else none
  | _ => none

/-- The product, rounded once. -/
def mul : Binary64 → Binary64 → Binary64
  | finite m x, finite n y => ofRatio (m != n) (x * y) (unitOne * unitOne)
  | infinite m, infinite n => infinite (m != n)
  | infinite m, finite n y => if y = 0 then nan else infinite (m != n)
  | finite m x, infinite n => if x = 0 then nan else infinite (m != n)
  | nan, _ | _, nan => nan

/-- The sum, rounded once. Opposite infinities have none. -/
def add : Binary64 → Binary64 → Binary64
  | finite m x, finite n y =>
    let sum := signedUnits m x + signedUnits n y
    if sum = 0 then finite (m && n) 0 else ofRatio (sum < 0) sum.natAbs unitOne
  | infinite m, infinite n => if m = n then infinite m else nan
  | infinite m, finite .. | finite .., infinite m => infinite m
  | nan, _ | _, nan => nan

def negate : Binary64 → Binary64
  | nan => nan
  | infinite negative => infinite !negative
  | finite negative units => finite (!negative) units

end Binary64

end DeclGraph
