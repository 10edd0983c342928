import DeclGraph.Text.Hex

/-!
Numbers written as text, with the digits and the blanks of any script.
-/

namespace DeclGraph.Text

/-- The zeros of the scripts that have decimal digits. The other nine follow each zero. -/
def decimalZeros : List Nat := [
  0x30, 0x660, 0x6f0, 0x7c0, 0x966, 0x9e6, 0xa66, 0xae6, 0xb66, 0xbe6, 0xc66, 0xce6, 0xd66, 0xde6,
  0xe50, 0xed0, 0xf20, 0x1040, 0x1090, 0x17e0, 0x1810, 0x1946, 0x19d0, 0x1a80, 0x1a90, 0x1b50,
  0x1bb0, 0x1c40, 0x1c50, 0xa620, 0xa8d0, 0xa900, 0xa9d0, 0xa9f0, 0xaa50, 0xabf0, 0xff10, 0x104a0,
  0x10d30, 0x11066, 0x110f0, 0x11136, 0x111d0, 0x112f0, 0x11450, 0x114d0, 0x11650, 0x116c0, 0x11730,
  0x118e0, 0x11950, 0x11c50, 0x11d50, 0x11da0, 0x16a60, 0x16ac0, 0x16b50, 0x1d7ce, 0x1d7d8, 0x1d7e2,
  0x1d7ec, 0x1d7f6, 0x1e140, 0x1e2f0, 0x1e950, 0x1fbf0]

/-- The value of a decimal digit. -/
def decimalDigit? (c : Char) : Option Nat :=
  (decimalZeros.find? fun first => first ≤ c.toNat && c.toNat < first + 10).map (c.toNat - ·)

/-- Blanks beyond ASCII. -/
def wideBlanks : List Nat :=
  [0x85, 0xa0, 0x1680, 0x2028, 0x2029, 0x202f, 0x205f, 0x3000] ++
    (List.range 11).map fun (i : Nat) => 0x2000 + i

/-- The ASCII character that a digit or a blank of any script counts as. -/
def numeralChar (c : Char) : Char :=
  if c.toNat < 0x7F then c
  else if wideBlanks.contains c.toNat then ' '
  else (decimalDigit? c).elim c Nat.digitChar

/-- The blanks of ASCII, which may stand around a number. -/
def isNumeralBlank (c : Char) : Bool := c == ' ' || ('\t' ≤ c && c ≤ '\r')

/-- A numeral in ASCII, without the blanks around it. -/
def trimNumeral (cs : List Char) : List Char :=
  let trimmed := (cs.map numeralChar).dropWhile isNumeralBlank
  (trimmed.reverse.dropWhile isNumeralBlank).reverse

/-- Whether a minus stands before a numeral, and what follows the sign if there is one. -/
def splitSign : List Char → Bool × List Char
  | '-' :: cs => (true, cs)
  | '+' :: cs => (false, cs)
  | cs => (false, cs)

/-- The letter that may mark a numeral of this base after a zero. -/
def baseLetter? : (base : Nat) → Option Char
  | 2 => some 'b'
  | 8 => some 'o'
  | 16 => some 'x'
  | _ => none

def dropBaseMark (base : Nat) : List Char → List Char
  | '0' :: c :: cs => if baseLetter? base = some c.toLower then cs else '0' :: c :: cs
  | cs => cs

def digitValue? (base : Nat) (c : Char) : Option Nat :=
  (hexValue? c).bind fun n => if n < base then some n else none

def digitsValue (base : Nat) (digits : List Char) : Nat :=
  digits.foldl (fun n c => base * n + (digitValue? base c).getD 0) 0

/-- Why a text is no number. -/
inductive NumeralProblem where
  | malformed
  /-- More decimal digits than a number may be written with. -/
  | tooLong (digits : Nat)
deriving DecidableEq, Repr

/-- Whole numbers are written and read in at most this many decimal digits. -/
def digitLimit : Nat := 4300

def NumeralProblem.limitText : String :=
  "Exceeds the limit (" ++ toString digitLimit ++ " digits) for integer string conversion"

def NumeralProblem.adviceText : String := "; use sys.set_int_max_str_digits() to increase the limit"

/-- The whole number that a text says in a base. -/
def wholeNumber (base : Nat) (cs : List Char) : Except NumeralProblem Int :=
  let (negative, cs) := splitSign (trimNumeral cs)
  let cs := dropBaseMark base cs
  let digits := cs.takeWhile fun c => (digitValue? base c).isSome
  if base = 10 ∧ digitLimit < digits.length then .error (.tooLong digits.length)
  else if digits.isEmpty ∨ digits.length < cs.length then .error .malformed
  else
    let n : Int := digitsValue base digits
    .ok (if negative then -n else n)

end DeclGraph.Text
