import DeclGraph.Config.Basic

/-!
Log events and the records that are kept of them.
-/

namespace DeclGraph

/-- Something that happened, with the data that belong to it. -/
structure LogEvent where
  logger : String
  level : LogLevel
  name : String
  fields : List (String × Datum)
  /-- A plain event comes from outside and is no more than its name. -/
  isPlain : Bool
deriving Repr

namespace LogEvent

/-- The data of an event by their names. Of fields of one name the last counts. -/
def given (event : LogEvent) : Entries :=
  .ofList (event.fields.map fun (name, value) => (.str name, value))

/-- The fields of an event and what the log adds to them. What the log adds replaces a field of the
same name. Without a run in progress a field `run_id` is kept. -/
def record (time : String) (runId : Option Datum) (event : LogEvent) : Entries :=
  let entries := event.given
    |>.insert (.str "event") (.str event.name)
    |>.insert (.str "level") (.str event.level.label)
    |>.insert (.str "logger") (.str event.logger)
    |>.insert (.str "timestamp") (.str time)
  match runId with
  | some id => entries.insert (.str "run_id") id
  | none => entries

/-- An event has a field of this name, which may be null. -/
def hasField (event : LogEvent) (name : String) : Bool := (event.given.get? (.str name)).isSome

end LogEvent

/-- Why an event cannot be logged. -/
inductive Refusal where
  /-- A field has the name of something that every event has. -/
  | reservedField
  /-- A field that should hold the origin of the event holds something else. -/
  | foreignOrigin
deriving DecidableEq, Repr

end DeclGraph
