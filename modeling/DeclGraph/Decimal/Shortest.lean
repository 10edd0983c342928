import DeclGraph.Decimal.Binary64

/-!
The shortest decimal text of a double-precision number: the fewest digits that read back as the same
number, and of those the nearest to it.
-/

namespace DeclGraph.Binary64

/-- A decimal `digits * 10 ^ exponent`. -/
structure Decimal where
  digits : Nat
  exponent : Int
deriving DecidableEq, Repr

/-- The decimals that round to a positive number. Bounds are counted in quarter units, and belong to
the interval when the significand is even. -/
structure RoundingInterval where
  low : Nat
  high : Nat
  closed : Bool

/-- Below a power of two the neighbours lie twice as close. -/
def roundingInterval (units : Nat) : RoundingInterval :=
  let step := spacing units
  let below := if 1 < step ∧ units = Nat.pow 2 52 * step then step else 2 * step
  ⟨4 * units - below, 4 * units + 2 * step, units / step % 2 == 0⟩

/-- A decimal and a count of quarter units as two whole numbers in the same ratio. -/
def commonScale (d : Decimal) (quarters : Nat) : Nat × Nat :=
  (d.digits * Nat.pow 10 d.exponent.toNat * (4 * unitOne), quarters * Nat.pow 10 (-d.exponent).toNat)

def RoundingInterval.contains (interval : RoundingInterval) (d : Decimal) : Bool :=
  let (n, low) := commonScale d interval.low
  let (_, high) := commonScale d interval.high
  if interval.closed then low ≤ n && n ≤ high else low < n && n < high

/-- The least power of ten above a positive number. All of them lie between these bounds. -/
def magnitude (units : Nat) : Int :=
  let powers : List Int := (List.range 640).map fun (i : Nat) => (i : Int) - 330
  (powers.find? fun e =>
    let (power, n) := commonScale ⟨1, e⟩ (4 * units)
    n < power).getD 310

/-- The nearest decimal with an exponent that rounds to the number; a tie goes to the even digit. -/
def nearestWithin (units : Nat) (exponent : Int) : Option Decimal :=
  let (one, n) := commonScale ⟨1, exponent⟩ (4 * units)
  let below : Decimal := ⟨n / one, exponent⟩
  let above : Decimal := ⟨n / one + 1, exponent⟩
  let interval := roundingInterval units
  let nearest : Decimal := ⟨roundDiv n one, exponent⟩
  if interval.contains nearest then some nearest
  else if interval.contains below then some below
  else if interval.contains above then some above
  else none

/-- The shortest decimal that rounds to a positive number. Seventeen digits always suffice. -/
def shortest (units : Nat) : Decimal :=
  let top := magnitude units
  ((List.range 17).findSome? fun (i : Nat) => nearestWithin units (top - (i + 1))).getD ⟨units, 0⟩

/-- How numbers are written: special values by words, decimal exponents from `least` to below
`limit` by position, and others with an exponent of at least two digits. -/
structure Spelling where
  least : Int
  limit : Int
  nan : String
  infinity : String

/-- Digits with a point after the first `point` of them, and at least one digit on both sides. -/
def positional (digits : List Char) (point : Int) : List Char :=
  if point ≤ 0 then
    '0' :: '.' :: (List.replicate (-point).toNat '0' ++ digits)
  else
    let whole := digits.take point.toNat
    let fraction := digits.drop point.toNat
    whole ++ List.replicate (point.toNat - whole.length) '0' ++
      '.' :: (if fraction.isEmpty then ['0'] else fraction)

/-- A power of ten in at least two digits, with its sign. -/
def exponentText (exponent : Int) : List Char :=
  let size := (toString exponent.natAbs).toList
  'e' :: (if exponent < 0 then '-' else '+') :: (List.replicate (2 - size.length) '0' ++ size)

/-- Digits with a point after the first of them, if there are more, and an exponent. -/
def withExponent (digits : List Char) (exponent : Int) : List Char :=
  let fraction := digits.drop 1
  digits.take 1 ++ (if fraction.isEmpty then [] else '.' :: fraction) ++ exponentText exponent

/-- The digits of a number, without zeros at their end. -/
def significant (digits : Nat) : List Char :=
  ((toString digits).toList.reverse.dropWhile (· == '0')).reverse

/-- The text of a decimal other than zero. -/
def decimalText (form : Spelling) (d : Decimal) : List Char :=
  let point := (toString d.digits).toList.length + d.exponent
  if form.least ≤ point - 1 ∧ point - 1 < form.limit then positional (significant d.digits) point
  else withExponent (significant d.digits) (point - 1)

def zeroText (form : Spelling) : List Char :=
  if form.least ≤ 0 ∧ 0 < form.limit then positional ['0'] 1 else withExponent ['0'] 0

def unsignedText (form : Spelling) (units : Nat) : List Char :=
  if units = 0 then zeroText form else decimalText form (shortest units)

def textAs (form : Spelling) : Binary64 → String
  | nan => form.nan
  | infinite negative => (if negative then "-" else "") ++ form.infinity
  | finite negative units =>
    (if negative then "-" else "") ++ String.ofList (unsignedText form units)

/-- Numbers from a ten-thousandth to below `10 ^ 16` are written by position. -/
def plain : Spelling := ⟨-4, 16, "nan", "inf"⟩

def text : Binary64 → String := textAs plain

end DeclGraph.Binary64
