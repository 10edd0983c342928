import DeclGraph.Log.Line

/-!
A log: the outputs that are set, and the run that events belong to.
-/

namespace DeclGraph

/-- Events are marked with the identifier of the run in progress, if there is one. Any value that
counts as something may identify a run. -/
structure Log where
  config : LogConfig
  runId : Option Datum
  /-- Fields of these names are for the log's own use, and no output shows them. -/
  ownFields : List String
deriving DecidableEq, Repr

/-- A record on its way to a destination. -/
structure Delivery where
  destination : Destination
  form : LineForm
  record : Entries
deriving DecidableEq, Repr

/-- Halves of surrogate pairs cannot be written to a file. The streams take any text. -/
def Destination.takes (text : String) : Destination → Bool
  | file _ => !Text.hasHalf text
  | stderr | stdout => true

/-- The text that arrives. Nothing does if the record cannot be written, or not to that destination. -/
def Delivery.text? (delivery : Delivery) : Option String :=
  (delivery.form.write delivery.record).filter delivery.destination.takes

/-- An output without a level of its own lets through what the log does. -/
def LogOutput.admits (output : LogOutput) (logLevel level : LogLevel) : Bool :=
  (output.level.getD logLevel).admits level

namespace Log

def initial (ownFields : List String) : Log := ⟨.default, none, ownFields⟩

def configure (log : Log) (config : LogConfig) : Log := { log with config := config }

def setRunId (log : Log) (id : Datum) : Log := { log with runId := some id }

def clearRunId (log : Log) : Log := { log with runId := none }

/-- The identifier of a run that is given none, or one that counts as nothing, is a fresh one. -/
def chooseRunId (fresh given : Datum) : Datum := if given.isBlank then fresh else given

/-- Why an event is refused. Two names of fields are reserved for every event, and two more for those
that the log lets through. -/
def refusal? (log : Log) (event : LogEvent) : Option Refusal :=
  if event.hasField "event" || event.hasField "self" then some .reservedField
  else if !log.config.level.admits event.level then none
  else if event.hasField "method_name" then some .reservedField
  else
    match event.given.get? (.str "_record") with
    | none | some .null => none
    | some _ => some .foreignOrigin

/-- Where an event goes while no output is set: only warnings and what is more severe are shown. -/
def fallback (event : LogEvent) (record : Entries) : List Delivery :=
  if LogLevel.warning.admits event.level then
    [⟨.stderr, if event.isPlain then .nameOnly else .mapping, record⟩]
  else []

/-- The deliveries of one event: one for each output that admits it, in order, if the log does. An
event that is refused is not delivered at all. -/
def deliveries (log : Log) (time : String) (event : LogEvent) : List Delivery :=
  let record := event.record time log.runId
  if (log.refusal? event).isSome || !log.config.level.admits event.level then []
  else if log.config.outputs.isEmpty then fallback event record
  else
    (log.config.outputs.filter (·.admits log.config.level event.level)).map fun output =>
      ⟨output.destination, output.format.lineForm, record.without log.ownFields⟩

end Log

end DeclGraph
