import DeclGraph.Datum

/-!
Settings: what is logged and where, how strict a batch is, and what is shown for debugging.
-/

namespace DeclGraph

/-- Levels of log events, from the least to the most severe. -/
inductive LogLevel where
  | debug
  | info
  | warning
  | error
  | critical
deriving DecidableEq, Repr

namespace LogLevel

def name : LogLevel → String
  | debug => "DEBUG"
  | info => "INFO"
  | warning => "WARNING"
  | error => "ERROR"
  | critical => "CRITICAL"

/-- The name of a level inside a log line. -/
def label : LogLevel → String
  | debug => "debug"
  | info => "info"
  | warning => "warning"
  | error => "error"
  | critical => "critical"

def rank : LogLevel → Nat
  | debug => 10
  | info => 20
  | warning => 30
  | error => 40
  | critical => 50

def all : List LogLevel := [debug, info, warning, error, critical]

def ofName? (name : String) : Option LogLevel := all.find? (·.name == name)

/-- A level lets through what is at least as severe. -/
def admits (threshold level : LogLevel) : Bool := decide (threshold.rank ≤ level.rank)

theorem ofName?_name (level : LogLevel) : ofName? level.name = some level := by
  cases level <;> decide

end LogLevel

inductive LogFormat where
  | json
  | console
deriving DecidableEq, Repr

namespace LogFormat

def name : LogFormat → String
  | json => "json"
  | console => "console"

def ofName? (name : String) : Option LogFormat := [json, console].find? (·.name == name)

theorem ofName?_name (format : LogFormat) : ofName? format.name = some format := by
  cases format <;> decide

end LogFormat

/-- Where log lines go. The path of a file is absolute and normalised. -/
inductive Destination where
  | stderr
  | stdout
  | file (path : String)
deriving DecidableEq, Repr

def Destination.text : Destination → String
  | stderr => "stderr"
  | stdout => "stdout"
  | file path => path

/-- One log output. Without a level of its own it has that of the log. -/
structure LogOutput where
  format : LogFormat
  destination : Destination
  level : Option LogLevel
deriving DecidableEq, Repr

structure LogConfig where
  level : LogLevel
  outputs : List LogOutput
deriving DecidableEq, Repr

structure Config where
  logging : LogConfig
  /-- A batch stops at the first module that does not match. -/
  strict : Bool
  /-- The modules of a batch are shown as outlines afterwards. -/
  dumpParsed : Bool
deriving DecidableEq, Repr

def LogOutput.default : LogOutput := ⟨.console, .stderr, none⟩

def LogConfig.default : LogConfig := ⟨.info, [.default]⟩

def Config.default : Config := ⟨.default, false, false⟩

def LogOutput.toDatum (output : LogOutput) : Datum :=
  .map [
    (.str "format", .str output.format.name),
    (.str "destination", .str output.destination.text),
    (.str "level", match output.level with
      | some level => .str level.name
      | none => .null)]

def LogConfig.toDatum (config : LogConfig) : Datum :=
  .map [
    (.str "level", .str config.level.name),
    (.str "outputs", .list (config.outputs.map LogOutput.toDatum))]

namespace Config

/-- The sections of a configuration in full. -/
def toEntries (config : Config) : Entries :=
  [(.str "logging", config.logging.toDatum),
    (.str "parse", .map [(.str "strict", .bool config.strict)]),
    (.str "debug", .map [(.str "dump_parsed", .bool config.dumpParsed)])]

end Config

end DeclGraph
