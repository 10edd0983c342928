import DeclGraph.Config.Checked
import DeclGraph.Config.Destination
import DeclGraph.Text.Surrogate

/-!
The form of settings: which documents are configurations.
-/

namespace DeclGraph.Config

open Checked

variable {α : Type}

/-- A string that is compared with words must not hold a half of a surrogate pair. -/
def whole (value : Datum) (text : String) (check : String → Checked α) : Checked α :=
  if Text.hasHalf text then reject value .notUnicode else check text

def checkLevel (value : Datum) : Checked LogLevel :=
  match value with
  | .str name => whole value name fun name =>
    match LogLevel.ofName? name with
    | some level => .ok level
    | none => reject value .notLevel
  | _ => reject value .notLevel

def checkOutputLevel (value : Datum) : Checked (Option LogLevel) :=
  match value with
  | .null => .ok none
  | _ => (checkLevel value).map some

def checkFormat (value : Datum) : Checked LogFormat :=
  match value with
  | .str name => whole value name fun name =>
    match LogFormat.ofName? name with
    | some format => .ok format
    | none => reject value .notFormat
  | _ => reject value .notFormat

/-- The text that bytes encode. -/
def bytesText? (bytes : List UInt8) : Option String := String.fromUTF8? ⟨bytes.toArray⟩

def checkDestinationText (homes : Homes) (value : Datum) (text : String) : Checked Destination :=
  match Destination.ofText homes text with
  | .ok destination => .ok destination
  | .error .relative => reject value (.relativePath text)
  | .error (.badAccount problem) => reject value (.badAccount problem)
  | .error .unknownHome => .error .unknownHome

def checkDestination (homes : Homes) (value : Datum) : Checked Destination :=
  match value with
  | .str text => checkDestinationText homes value text
  | .scalar (.bytes bytes) =>
    match bytesText? bytes with
    | some text => checkDestinationText homes value text
    | none => reject value .notUnicode
  | _ => reject value .notString

/-- Words for true and false, in any case. -/
def booleanWords : List (String × Bool) :=
  [("0", false), ("off", false), ("f", false), ("false", false), ("n", false), ("no", false),
    ("1", true), ("on", true), ("t", true), ("true", true), ("y", true), ("yes", true)]

def booleanOfWord (value : Datum) (word : String) : Checked Bool :=
  match booleanWords.lookup word.toLower with
  | some b => .ok b
  | none => reject value .unclearBoolean

/-- Signed words of 64 bits stay below this. -/
def wordLimit : Int := 0x8000000000000000

/-- Zero and one are booleans. A number beyond `least` or the limit of words is not even taken for an
attempt at one. -/
def booleanOfInt (value : Datum) (least n : Int) : Checked Bool :=
  if n = 0 then .ok false
  else if n = 1 then .ok true
  else if least ≤ n ∧ n < wordLimit then reject value .unclearBoolean
  else reject value .notBoolean

def checkBoolean (value : Datum) : Checked Bool :=
  match value with
  | .bool b => .ok b
  | .str word => whole value word (booleanOfWord value)
  | .scalar (.bytes bytes) =>
    match bytesText? bytes with
    | some word => booleanOfWord value word
    | none => reject value .unclearBoolean
  | .int n => booleanOfInt value (-wordLimit) n
  | .float x =>
    match x.toInt? with
    | some n => booleanOfInt value (1 - wordLimit) n
    | none => reject value .notBoolean
  | _ => reject value .notBoolean

def checkOutputEntries (homes : Homes) (entries : Entries) : Checked LogOutput :=
  (both (field entries "format" .console checkFormat)
    (both (field entries "destination" .stderr (checkDestination homes))
      (field entries "level" none checkOutputLevel))).map
    fun (format, destination, level) => ⟨format, destination, level⟩

def checkOutput (homes : Homes) : Datum → Checked LogOutput :=
  mapping "LogOutputConfig" (checkOutputEntries homes)

def checkOutputs (homes : Homes) (value : Datum) : Checked (List LogOutput) :=
  match value.items? with
  | some items => itemsFrom (checkOutput homes) 0 items
  | none => reject value .notList

def checkLogging (homes : Homes) : Datum → Checked LogConfig :=
  mapping "LoggingConfig" fun entries =>
    (both (field entries "level" .info checkLevel)
      (field entries "outputs" [.default] (checkOutputs homes))).map
      fun (level, outputs) => ⟨level, outputs⟩

def checkParse : Datum → Checked Bool :=
  mapping "ParseConfig" fun entries => field entries "strict" false checkBoolean

def checkDebug : Datum → Checked Bool :=
  mapping "DebugConfig" fun entries => field entries "dump_parsed" false checkBoolean

/-- The level of a log put together from its parts. -/
def partLevel : Option Datum → Checked LogLevel
  | some value => under (.key "level") (checkLevel value)
  | none => .ok .info

/-- A log put together from its parts: the outputs come first, each is checked on its own, and the
first rejection ends the check. -/
def assembleLogging (homes : Homes) (outputs : List Datum) (level : Option Datum) :
    Checked LogConfig := do
  let outputs ← outputs.mapM (checkOutput homes)
  return ⟨← partLevel level, outputs⟩

/-- A log with one output. -/
def singleOutput (format : LogFormat) (level : Option Datum) : Checked LogConfig :=
  (partLevel level).map fun level => ⟨level, [{ LogOutput.default with format := format }]⟩

/-- The sections of a configuration. -/
def sections : List String := ["logging", "parse", "debug"]

def isSection : Scalar → Bool
  | .str name => sections.contains name
  | _ => false

/-- Unlike the keys inside sections, those around them have to be known. -/
def checkKeys : Entries → Checked Unit
  | [] => .ok ()
  | (key, value) :: entries =>
    if isSection key then checkKeys entries
    else
      under (match key with
        | .str name => .key name
        | _ => .key "") (reject value .unknownKey)

/-- The configuration that settings describe. The sections are checked in order, then the keys. -/
def check (homes : Homes) (entries : Entries) : Checked Config :=
  (both (field entries "logging" .default (checkLogging homes))
    (both (field entries "parse" false checkParse)
      (both (field entries "debug" false checkDebug) (checkKeys entries)))).map
    fun (logging, strict, dumpParsed, _) => ⟨logging, strict, dumpParsed⟩

end DeclGraph.Config
