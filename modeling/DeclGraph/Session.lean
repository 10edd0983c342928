import DeclGraph.Batch
import DeclGraph.Log.State
import DeclGraph.Outline.Dump

/-!
Sessions: what is written while a log is set up, used and set up anew.
-/

namespace DeclGraph

/-- Text that has been written to a destination. -/
structure Written where
  destination : Destination
  text : String
deriving DecidableEq, Repr

/-- What is done with a log. -/
inductive Command where
  | configure (config : LogConfig)
  | setRunId (id : Datum)
  | clearRunId
  | emit (time : String) (event : LogEvent)
  /-- A batch, whose modules are shown as outlines afterwards if `dump` is set. The clock tells the
  time of each of its events. -/
  | batch (clock : Nat → String) (strict dump : Bool) (dumps : List Interface)

namespace Log

/-- What one event leaves behind. A delivery that fails does not keep back the others. -/
def write (log : Log) (time : String) (event : LogEvent) : List Written :=
  (log.deliveries time event).filterMap fun delivery =>
    delivery.text?.map fun text => ⟨delivery.destination, text⟩

/-- What events leave behind that are logged in order, each with its time. -/
def writeAll (log : Log) (events : List (String × LogEvent)) : List Written :=
  events.flatMap fun (time, event) => log.write time event

end Log

/-- Events with the times that a clock tells for them. -/
def Batch.stamped (clock : Nat → String) (events : List LogEvent) : List (String × LogEvent) :=
  events.mapIdx fun i event => (clock i, event)

/-- Outlines are shown whatever the outputs of the log are. -/
def Batch.shown : Except FaultCause Batch → List Written
  | .ok batch => (Module.dumpLines batch.modules).map fun line => ⟨.stderr, line⟩
  | .error _ => []

namespace Command

/-- The log after a command. -/
def next (log : Log) : Command → Log
  | configure config => log.configure config
  | setRunId id => log.setRunId id
  | clearRunId => log.clearRunId
  | emit .. | batch .. => log

/-- The events that a command brings about, with their times. -/
def events : Command → List (String × LogEvent)
  | emit time event => [(time, event)]
  | batch clock strict _ dumps => Batch.stamped clock (Batch.parse strict dumps).marks
  | configure _ | setRunId _ | clearRunId => []

/-- The outlines that a command shows. -/
def shown : Command → List Written
  | batch _ strict true dumps => Batch.shown (Batch.parse strict dumps).value
  | _ => []

/-- What a command writes. -/
def written (log : Log) (command : Command) : List Written :=
  log.writeAll command.events ++ command.shown

end Command

namespace Session

/-- What a sequence of commands writes. -/
def written : Log → List Command → List Written
  | _, [] => []
  | log, command :: commands => command.written log ++ written (command.next log) commands

/-- The texts that a destination has got, in order. -/
def contents (destination : Destination) (written : List Written) : List String :=
  (written.filter (·.destination = destination)).map (·.text)

end Session

end DeclGraph
