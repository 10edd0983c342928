import DeclGraph.Datum.Text
import DeclGraph.TypeTable

/-!
Faults: what goes wrong around the grammar, in the settings, in a type table or in a batch that was
asked to stop. A tree that does not match a production is no fault.
-/

namespace DeclGraph

/-- Fault codes. Those from 2001 on concern settings, those from 3001 on dumps. -/
inductive FaultCode where
  | configUnreadable
  | configInvalid
  | configMissing
  | moduleUnmatched
  | typeIndexOutside
deriving DecidableEq, Repr

namespace FaultCode

def number : FaultCode → Nat
  | configUnreadable => 2001
  | configInvalid => 2002
  | configMissing => 2004
  | moduleUnmatched => 3001
  | typeIndexOutside => 3002

def name : FaultCode → String
  | configUnreadable => "CONFIG_PARSE_ERROR"
  | configInvalid => "CONFIG_INVALID_VALUE"
  | configMissing => "CONFIG_FILE_NOT_FOUND"
  | moduleUnmatched => "PARSE_MODULE_NO_MATCH"
  | typeIndexOutside => "PARSE_TYPE_INDEX_OUT_OF_RANGE"

def all : List FaultCode :=
  [configUnreadable, configInvalid, configMissing, moduleUnmatched, typeIndexOutside]

def ofNumber? (number : Int) : Option FaultCode := all.find? fun code => (code.number : Int) == number

end FaultCode

/-- A reported fault: its code, what it says, and the data that it says it about. -/
structure Fault where
  code : FaultCode
  message : String
  details : Entries
deriving DecidableEq, Repr

namespace Fault

def text (fault : Fault) : String :=
  "[" ++ toString fault.code.number ++ "] " ++ fault.code.name ++ ": " ++ fault.message

/-- The form in which faults are stored. -/
def toDatum (fault : Fault) : Datum :=
  .map [
    (.str "code", .int fault.code.number),
    (.str "error", .str fault.code.name),
    (.str "message", .str fault.message),
    (.str "details", .map fault.details)]

end Fault

/-- What brings a fault about. -/
inductive FaultCause where
  | unreadableConfig (path reason : String)
  | invalidSetting (field : String) (value : Datum) (reason : String)
  | missingConfig (path : String)
  | unmatchedModule (module path : String)
  | badTypeIndex (index size : Int)
deriving DecidableEq, Repr

namespace FaultCause

def code : FaultCause → FaultCode
  | unreadableConfig .. => .configUnreadable
  | invalidSetting .. => .configInvalid
  | missingConfig .. => .configMissing
  | unmatchedModule .. => .moduleUnmatched
  | badTypeIndex .. => .typeIndexOutside

def message : FaultCause → String
  | unreadableConfig path reason => "Failed to parse config at " ++ path ++ ": " ++ reason
  | invalidSetting field _ reason => "Invalid value for '" ++ field ++ "': " ++ reason
  | missingConfig path => "Config file not found: " ++ path
  | unmatchedModule module path => "Could not parse module " ++ module ++ " (" ++ path ++ ")"
  | badTypeIndex index size =>
    "Type index " ++ toString index ++ " outside table of size " ++ toString size

def details : FaultCause → Entries
  | unreadableConfig path reason => [(.str "path", .str path), (.str "reason", .str reason)]
  | invalidSetting field value reason =>
    [(.str "field", .str field), (.str "value", .str value.text), (.str "reason", .str reason)]
  | missingConfig path => [(.str "path", .str path)]
  | unmatchedModule module path => [(.str "module", .str module), (.str "path", .str path)]
  | badTypeIndex index size => [(.str "index", .int index), (.str "size", .int size)]

def fault (cause : FaultCause) : Fault := ⟨cause.code, cause.message, cause.details⟩

def ofBadIndex (bad : BadIndex) : FaultCause := badTypeIndex bad.index bad.size

end FaultCause

/-- A value that a closed vocabulary does not have. -/
structure UnknownLabel where
  value : Datum
  vocabulary : String
deriving DecidableEq, Repr

def UnknownLabel.message (unknown : UnknownLabel) : String :=
  unknown.value.quoted ++ " is not a valid " ++ unknown.vocabulary

end DeclGraph
