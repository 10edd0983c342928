import DeclGraph.Datum
import DeclGraph.Text.Hex
import DeclGraph.Text.Numeral
import DeclGraph.Text.Surrogate

/-!
Reading JSON text. The readers take the characters that are left and return those that they leave.
-/

namespace DeclGraph.Json

def isSpace (c : Char) : Bool := c == ' ' || c == '\t' || c == '\n' || c == '\r'

def skipSpace (cs : List Char) : List Char := cs.dropWhile isSpace

/-- Reads the rest of a word. -/
def expect : (word cs : List Char) → Option (List Char)
  | [], cs => some cs
  | _ :: _, [] => none
  | w :: word, c :: cs => if w = c then expect word cs else none

def digitsValue (digits : List Char) : Nat :=
  digits.foldl (fun n c => 10 * n + (c.toNat - '0'.toNat)) 0

/-- The digits of a fraction, which a point has to precede; without any the point is not read. -/
def fraction (cs : List Char) : List Char × List Char :=
  match cs with
  | '.' :: rest =>
    match rest.takeWhile Char.isDigit with
    | [] => ([], cs)
    | digits => (digits, rest.dropWhile Char.isDigit)
  | _ => ([], cs)

def exponentDigits (negative : Bool) (cs rest : List Char) : Option Int × List Char :=
  match rest.takeWhile Char.isDigit with
  | [] => (none, cs)
  | digits =>
    let n : Int := digitsValue digits
    (some (if negative then -n else n), rest.dropWhile Char.isDigit)

def exponent (cs : List Char) : Option Int × List Char :=
  match cs with
  | 'e' :: '-' :: rest | 'E' :: '-' :: rest => exponentDigits true cs rest
  | 'e' :: '+' :: rest | 'E' :: '+' :: rest => exponentDigits false cs rest
  | 'e' :: rest | 'E' :: rest => exponentDigits false cs rest
  | _ => (none, cs)

/-- The digits at the start of a number. A zero stands alone. -/
def wholeDigits : List Char → List Char
  | '0' :: _ => ['0']
  | cs => cs.takeWhile Char.isDigit

/-- A number without a fraction or an exponent is whole, and has a limit of digits. -/
def unsignedNumber (negative : Bool) (cs : List Char) : Option (Datum × List Char) :=
  let whole := wholeDigits cs
  if whole.isEmpty then none
  else
    let (fractionDigits, rest) := fraction (cs.drop whole.length)
    let (power, rest) := exponent rest
    if fractionDigits.isEmpty ∧ power.isNone then
      if Text.digitLimit < whole.length then none
      else
        let n : Int := digitsValue whole
        some (.int (if negative then -n else n), rest)
    else
      some (.float (Binary64.ofDecimal negative (digitsValue (whole ++ fractionDigits))
        (power.getD 0 - fractionDigits.length)), rest)

/-- One character of a string after a backslash. Two escaped halves of a surrogate pair are one
character, and half a pair stands alone. -/
def escaped : List Char → Option (Char × List Char)
  | '"' :: cs => some ('"', cs)
  | '\\' :: cs => some ('\\', cs)
  | '/' :: cs => some ('/', cs)
  | 'b' :: cs => some ('\x08', cs)
  | 'f' :: cs => some ('\x0c', cs)
  | 'n' :: cs => some ('\n', cs)
  | 'r' :: cs => some ('\r', cs)
  | 't' :: cs => some ('\t', cs)
  | 'u' :: cs => do
    let (unit, rest) ← Text.hexNumber 4 cs
    if 0xD800 ≤ unit ∧ unit < 0xDC00 then
      match rest with
      | '\\' :: 'u' :: more =>
        match Text.hexNumber 4 more with
        | some (low, rest') =>
          if 0xDC00 ≤ low ∧ low < 0xE000 then
            some (Char.ofNat (0x10000 + (unit - 0xD800) * 0x400 + (low - 0xDC00)), rest')
          else some (Text.halfChar unit, rest)
        | none => none
      | _ => some (Text.halfChar unit, rest)
    else if Text.isHalfUnit unit then some (Text.halfChar unit, rest)
    else some (Char.ofNat unit, rest)
  | _ => none

/-- The characters of a string up to its closing quote. Control characters have to be escaped. -/
def stringBody : (fuel : Nat) → (read : List Char) → List Char → Option (String × List Char)
  | 0, _, _ => none
  | _ + 1, _, [] => none
  | fuel + 1, read, c :: cs =>
    if c = '"' then some (String.ofList read.reverse, cs)
    else if c = '\\' then do
      let (e, rest) ← escaped cs
      stringBody fuel (e :: read) rest
    else if c.toNat < 0x20 then none
    else stringBody fuel (c :: read) cs

def string (cs : List Char) : Option (String × List Char) := stringBody (cs.length + 1) [] cs

mutual

def value : (fuel : Nat) → List Char → Option (Datum × List Char)
  | 0, _ => none
  | fuel + 1, cs =>
    match cs with
    | '"' :: rest => (string rest).map fun (s, rest) => (.str s, rest)
    | '[' :: rest =>
      match skipSpace rest with
      | ']' :: rest => some (.list [], rest)
      | rest => (items fuel rest).map fun (xs, rest) => (.list xs, rest)
    | '\x7b' :: rest =>
      match skipSpace rest with
      | '\x7d' :: rest => some (.map [], rest)
      | rest => (members fuel rest).map fun (es, rest) => (.map (Entries.ofList es), rest)
    | 'n' :: rest => (expect "ull".toList rest).map fun rest => (.null, rest)
    | 't' :: rest => (expect "rue".toList rest).map fun rest => (.bool true, rest)
    | 'f' :: rest => (expect "alse".toList rest).map fun rest => (.bool false, rest)
    | 'N' :: rest => (expect "aN".toList rest).map fun rest => (.float .nan, rest)
    | 'I' :: rest => (expect "nfinity".toList rest).map fun rest => (.float (.infinite false), rest)
    | '-' :: 'I' :: rest =>
      (expect "nfinity".toList rest).map fun rest => (.float (.infinite true), rest)
    | '-' :: rest => unsignedNumber true rest
    | _ => unsignedNumber false cs

/-- One or more values up to the closing bracket of a list. -/
def items : (fuel : Nat) → List Char → Option (List Datum × List Char)
  | 0, _ => none
  | fuel + 1, cs => do
    let (x, rest) ← value fuel cs
    match skipSpace rest with
    | ']' :: rest => some ([x], rest)
    | ',' :: rest => do
      let (xs, rest) ← items fuel (skipSpace rest)
      some (x :: xs, rest)
    | _ => none

/-- One or more members up to the closing brace of an object. -/
def members : (fuel : Nat) → List Char → Option (List (Scalar × Datum) × List Char)
  | 0, _ => none
  | fuel + 1, cs =>
    match cs with
    | '"' :: rest => do
      let (key, rest) ← string rest
      match skipSpace rest with
      | ':' :: rest => do
        let (x, rest) ← value fuel (skipSpace rest)
        match skipSpace rest with
        | '\x7d' :: rest => some ([(.str key, x)], rest)
        | ',' :: rest => do
          let (es, rest) ← members fuel (skipSpace rest)
          some ((.str key, x) :: es, rest)
        | _ => none
      | _ => none
    | _ => none

end

/-- Reads a text that holds one value and nothing after it. -/
def read? (text : String) : Option Datum := do
  let cs := text.toList
  let (x, rest) ← value (cs.length + 1) (skipSpace cs)
  if (skipSpace rest).isEmpty then some x else none

end DeclGraph.Json
