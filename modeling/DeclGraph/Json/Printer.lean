import DeclGraph.Datum
import DeclGraph.Datum.Text
import DeclGraph.Decimal.Shortest
import DeclGraph.Text.Hex
import DeclGraph.Text.Surrogate

/-!
Writing JSON text in ASCII, on one line, with a space after each comma and colon.

Not every document has a JSON text: `obstacle?` tells the first obstacle, in the order of writing, and
`write` is the text of those that have none.
-/

namespace DeclGraph.Json

def unitEscape (unit : Nat) : List Char := '\\' :: 'u' :: Text.hexDigits 4 unit

/-- The mark that stands for a character after a backslash. -/
def mark? : Char → Option Char
  | '"' => some '"'
  | '\\' => some '\\'
  | '\n' => some 'n'
  | '\r' => some 'r'
  | '\t' => some 't'
  | '\x08' => some 'b'
  | '\x0c' => some 'f'
  | _ => none

/-- A character of a string. Beyond the first 65536 code points it takes two escapes. -/
def escape (c : Char) : List Char :=
  if let some mark := mark? c then ['\\', mark]
  else if 0x20 ≤ c.toNat ∧ c.toNat < 0x7F then [c]
  else if let some unit := Text.halfUnit? c then unitEscape unit
  else if c.toNat < 0x10000 then unitEscape c.toNat
  else
    let offset := c.toNat - 0x10000
    unitEscape (0xD800 + offset / 0x400) ++ unitEscape (0xDC00 + offset % 0x400)

def quoted (s : String) : String := "\"" ++ String.ofList (s.toList.flatMap escape) ++ "\""

def numberWords : Binary64.Spelling := ⟨-4, 16, "NaN", "Infinity"⟩

/-- Bytes, dates and instants have no form of their own and are written as strings. -/
def scalarText : Scalar → String
  | .null => "null"
  | .bool value => if value then "true" else "false"
  | .int value => toString value
  | .float value => value.textAs numberWords
  | .str value => quoted value
  | .bytes value => quoted (DeclGraph.Text.quoteBytes value)
  | .date value => quoted value.text
  | .instant value => quoted value.text

/-- Keys are always strings. -/
def keyString : Scalar → String
  | .null => "null"
  | .bool value => if value then "true" else "false"
  | .int value => toString value
  | .float value => value.textAs numberWords
  | .str value => value
  | .bytes value => DeclGraph.Text.quoteBytes value
  | .date value => value.text
  | .instant value => value.text

def keyText (key : Scalar) : String := quoted (keyString key)

mutual

def text : Datum → String
  | .scalar value => scalarText value
  | .sequence _ items => "[" ++ ", ".intercalate (texts items) ++ "]"
  | .map entries => "\x7b" ++ ", ".intercalate (memberTexts entries) ++ "\x7d"
  | .knot _ value => text value
  | .loop .. => "null"

def texts : List Datum → List String
  | [] => []
  | item :: items => text item :: texts items

def memberTexts : List (Scalar × Datum) → List String
  | [] => []
  | (key, value) :: entries => (keyText key ++ ": " ++ text value) :: memberTexts entries

end

/-- Why a document has no JSON text. -/
inductive Obstacle where
  /-- Bytes, dates, instants and sets have no form. -/
  | noForm
  /-- A document contains itself. -/
  | circular
  | tooLong
deriving DecidableEq, Repr

def Obstacle.message : Obstacle → String
  | noForm => "no form for this kind of value"
  | circular => "Circular reference detected"
  | tooLong => Text.NumeralProblem.limitText ++ Text.NumeralProblem.adviceText

def scalarObstacle? (value : Scalar) : Option Obstacle :=
  match value with
  | .bytes _ | .date _ | .instant _ => some .noForm
  | _ => if value.isWritable then none else some .tooLong

mutual

/-- The first obstacle on the way of writing a document. -/
def obstacle? : Datum → Option Obstacle
  | .scalar value => scalarObstacle? value
  | .sequence .set _ => some .noForm
  | .sequence _ items => itemsObstacle? items
  | .map entries => entriesObstacle? entries
  | .knot _ value => obstacle? value
  | .loop .. => some .circular

def itemsObstacle? : List Datum → Option Obstacle
  | [] => none
  | item :: items => (obstacle? item).or (itemsObstacle? items)

def entriesObstacle? : List (Scalar × Datum) → Option Obstacle
  | [] => none
  | (key, value) :: entries =>
    (scalarObstacle? key).or ((obstacle? value).or (entriesObstacle? entries))

end

def write (value : Datum) : Except Obstacle String :=
  match obstacle? value with
  | some obstacle => .error obstacle
  | none => .ok (text value)

mutual

/-- A document in which the quoted text of each value without a form stands for the value. Keys are
left as they are, and so is a set that has no quoted text. -/
def spellOut : Datum → Datum
  | .scalar (.bytes value) => .str (Scalar.bytes value).quoted
  | .scalar (.date value) => .str (Scalar.date value).quoted
  | .scalar (.instant value) => .str (Scalar.instant value).quoted
  | .scalar value => .scalar value
  | .sequence .set items =>
    if Datum.allWritable items then .str (Datum.sequence .set items).quoted
    else .sequence .set items
  | .sequence form items => .sequence form (spellOutAll items)
  | .map entries => .map (spellOutEntries entries)
  | .knot name value => .knot name (spellOut value)
  | .loop name brackets => .loop name brackets

def spellOutAll : List Datum → List Datum
  | [] => []
  | item :: items => spellOut item :: spellOutAll items

def spellOutEntries : List (Scalar × Datum) → List (Scalar × Datum)
  | [] => []
  | (key, value) :: entries => (key, spellOut value) :: spellOutEntries entries

end

end DeclGraph.Json
