import DeclGraph.Datum.Text
import DeclGraph.Json.Printer
import DeclGraph.Log.Event

/-!
The forms in which records of events are written.
-/

namespace DeclGraph

/-- Besides the two formats that settings name, there are the forms that are used while no output
is set: the record as a mapping, and the name of the event alone. -/
inductive LineForm where
  | json
  | console
  | mapping
  | nameOnly
deriving DecidableEq, Repr

def LogFormat.lineForm : LogFormat → LineForm
  | json => .json
  | console => .console

namespace LineForm

/-- Characters that would blur where a value ends. -/
def needsQuotes (c : Char) : Bool := [' ', '\t', '=', '\r', '\n', '"', '\''].contains c

def consoleValue : Datum → String
  | .str text => if text.toList.any needsQuotes then Text.quote text else text
  | value => value.quoted

/-- The keys that stand at the start of a console line, by position and not by name. -/
def leadingKeys : List String := ["timestamp", "level", "event", "logger", "logger_name"]

def isLeading : Scalar → Bool
  | .str key => leadingKeys.contains key
  | _ => false

def bracketed (text : String) : String := "[" ++ text ++ "]"

/-- A leading value, which is left out if it is absent or empty. -/
def leading (record : Entries) (key : String) (form : String → String) : List String :=
  match record.get? (.str key) with
  | some value => [form value.text].filter (!·.isEmpty)
  | none => []

/-- The name of a field and its value as it is shown. -/
def fieldText (field : Scalar × Datum) : String × String :=
  ((Datum.scalar field.1).text, consoleValue field.2)

/-- The remaining fields as they are shown, sorted by their names. -/
def fieldTexts (record : Entries) : List (String × String) :=
  let rest := record.filter fun entry => !isLeading entry.1
  (rest.map fieldText).mergeSort fun a b => decide (a.1 ≤ b.1)

/-- Fields of an error, which follow the line. -/
def errorKeys : List String := ["stack", "exception", "exc_info"]

/-- The text of a field that is not null. -/
def textOf? (record : Entries) (key : String) : Option String :=
  match record.get? (.str key) with
  | none | some .null => none
  | some value => some value.text

def rule : String := "\n\n" ++ String.ofList (List.replicate 79 '=') ++ "\n"

/-- A stack and an exception stand on lines of their own, with a rule between them. The rule is also
drawn where an exception is only hinted at. -/
def errorText (record : Entries) : String :=
  let exception := textOf? record "exception"
  let hinted := ((record.get? (.str "exc_info")).map (!·.isBlank)).getD false
  let stackText := match textOf? record "stack" with
    | some stack => "\n" ++ stack ++ (if hinted || exception.isSome then rule else "")
    | none => ""
  stackText ++ (exception.elim "" fun text => "\n" ++ text)

def consoleLine (record : Entries) : String :=
  " ".intercalate
    (leading record "timestamp" id ++ leading record "level" bracketed ++ leading record "event" id ++
      leading record "logger" bracketed ++ leading record "logger_name" bracketed ++
      (fieldTexts record).map fun (name, value) => name ++ "=" ++ value)

def consoleText (record : Entries) : String :=
  consoleLine (record.without errorKeys) ++ errorText record

/-- A stack and an exception can only be strings, and the other values need a text. -/
def fitsConsole (record : Entries) : Bool :=
  Datum.entriesWritable (record.without errorKeys) &&
    ["stack", "exception"].all fun key =>
      match record.get? (.str key) with
      | none | some .null | some (.str _) => true
      | some _ => false

/-- The text of a record, if it can be written in a form. In JSON a value without a form of its own
is spelled out. -/
def write (record : Entries) : LineForm → Option String
  | json => (Json.write (Json.spellOut (.map record))).toOption
  | console => if fitsConsole record then some (consoleText record) else none
  | mapping => if (Datum.map record).isWritable then some (Datum.map record).quoted else none
  | nameOnly => (record.get? (.str "event")).map Datum.text

end LineForm

end DeclGraph
