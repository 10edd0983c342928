import DeclGraph.Datum
import DeclGraph.Decimal.Shortest
import DeclGraph.Text.Numeral
import DeclGraph.Text.Quoted

/-!
The text of a value, as it is quoted in messages and shown in log lines. Where a value contains
itself, points stand for it.
-/

namespace DeclGraph

def Scalar.quoted : Scalar → String
  | .null => "None"
  | .bool value => if value then "True" else "False"
  | .int value => toString value
  | .float value => value.text
  | .str value => Text.quote value
  | .bytes value => Text.quoteBytes value
  | .date value => value.quoted
  | .instant value => value.quoted

/-- A number of more digits than may be written has no text. -/
def Scalar.isWritable : Scalar → Bool
  | .int value => (toString value.natAbs).length ≤ Text.digitLimit
  | _ => true

def Brackets.surround : Brackets → String → String
  | .square, inner => "[" ++ inner ++ "]"
  | .round, inner => "(" ++ inner ++ ")"
  | .curly, inner => "\x7b" ++ inner ++ "\x7d"

def SequenceForm.surround (inner : String) : SequenceForm → String
  | .list => Brackets.square.surround inner
  | .pair => Brackets.round.surround inner
  | .set => if inner.isEmpty then "set()" else Brackets.curly.surround inner

namespace Datum

mutual

/-- The text of a value inside another one: strings are quoted. `around` names the knots around it. -/
def quotedIn (around : List Nat) : Datum → String
  | .scalar value => value.quoted
  | .sequence form items => form.surround (", ".intercalate (allQuoted around items))
  | .map entries => Brackets.curly.surround (", ".intercalate (entriesQuoted around entries))
  | .knot name value =>
    if around.contains name then value.brackets.surround "..." else quotedIn (name :: around) value
  | .loop _ brackets => brackets.surround "..."

def allQuoted (around : List Nat) : List Datum → List String
  | [] => []
  | item :: items => quotedIn around item :: allQuoted around items

def entriesQuoted (around : List Nat) : List (Scalar × Datum) → List String
  | [] => []
  | (key, value) :: entries =>
    (key.quoted ++ ": " ++ quotedIn around value) :: entriesQuoted around entries

end

def quoted (d : Datum) : String := quotedIn [] d

/-- The text of a value on its own: strings, dates and instants stand for themselves. -/
def text : Datum → String
  | .str value => value
  | .scalar (.date value) => value.text
  | .scalar (.instant value) => value.text
  | value => quoted value

mutual

/-- All numbers in a value have a text. -/
def isWritable : Datum → Bool
  | .scalar value => value.isWritable
  | .sequence _ items => allWritable items
  | .map entries => entriesWritable entries
  | .knot _ value => isWritable value
  | .loop .. => true

def allWritable : List Datum → Bool
  | [] => true
  | item :: items => isWritable item && allWritable items

def entriesWritable : List (Scalar × Datum) → Bool
  | [] => true
  | (key, value) :: entries => key.isWritable && isWritable value && entriesWritable entries

end

end Datum

end DeclGraph
