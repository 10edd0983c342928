import DeclGraph.Decimal.Binary64
import DeclGraph.Text.Numeral

/-!
Reading double-precision numbers: decimals with a point, an exponent, or neither, and words for
infinity and for what is no number.
-/

namespace DeclGraph.Binary64

/-- The power of ten after the digits of a number. -/
def readExponent? : List Char → Option Int
  | [] => some 0
  | e :: cs =>
    let (negative, digits) := Text.splitSign cs
    if e.toLower = 'e' ∧ !digits.isEmpty ∧ digits.all Char.isDigit then
      let n : Int := Text.digitsValue 10 digits
      some (if negative then -n else n)
    else none

def readUnsigned? (cs : List Char) : Option Binary64 :=
  let word := cs.map Char.toLower
  if word = "inf".toList ∨ word = "infinity".toList then some (.infinite false)
  else if word = "nan".toList then some .nan
  else
    let whole := cs.takeWhile Char.isDigit
    let (fraction, rest) := match cs.dropWhile Char.isDigit with
      | '.' :: rest => (rest.takeWhile Char.isDigit, rest.dropWhile Char.isDigit)
      | rest => ([], rest)
    let digits := whole ++ fraction
    if digits.isEmpty then none
    else
      (readExponent? rest).map fun power =>
        ofDecimal false (Text.digitsValue 10 digits) (power - fraction.length)

/-- The number that a text says. -/
def read? (cs : List Char) : Option Binary64 :=
  let (negative, cs) := Text.splitSign (Text.trimNumeral cs)
  (readUnsigned? cs).map fun x => if negative then x.negate else x

end DeclGraph.Binary64
