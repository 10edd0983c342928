import DeclGraph.Fault
import DeclGraph.Interface
import DeclGraph.Log.Event
import DeclGraph.Query.Traced

/-!
Batches: parsing many interface dumps, with an event for what became of each.
-/

namespace DeclGraph

/-- The modules that were read, and the names of those that were not. -/
structure Batch where
  modules : List Module
  failed : List String
deriving DecidableEq, Repr

namespace Batch

def empty : Batch := ⟨[], []⟩

def isOk (batch : Batch) : Bool := batch.failed.isEmpty

def consModule (module : Module) (batch : Batch) : Batch :=
  { batch with modules := module :: batch.modules }

def consFailed (name : String) (batch : Batch) : Batch :=
  { batch with failed := name :: batch.failed }

/-! The events of a batch -/

def event (level : LogLevel) (name : String) (fields : List (String × Datum)) : LogEvent :=
  ⟨"hiegraph.parse.assemble", level, name, fields, false⟩

def parsedEvent (module : Module) : LogEvent :=
  event .debug "module_parsed"
    [("module", .str module.name), ("imports", .int module.imports.length),
      ("decls", .int module.decls.length), ("constructors", .int module.constructorCount)]

def origin (dump : Interface) : List (String × Datum) :=
  [("module", .str dump.moduleName), ("path", .str dump.path)]

def skippedEvent (dump : Interface) : LogEvent := event .warning "module_skipped" (origin dump)

def unmatchedEvent (dump : Interface) : LogEvent := event .error "module_parse_failed" (origin dump)

def completeEvent (batch : Batch) : LogEvent :=
  event .info "parse_complete"
    [("parsed", .int batch.modules.length), ("skipped", .int batch.failed.length)]

/-- Parses dumps in order. A bad type index ends the batch, and so does a dump that does not match
if the batch is strict. -/
def collect (strict : Bool) : List Interface → Traced LogEvent (Except FaultCause Batch)
  | [] => pure (.ok empty)
  | dump :: dumps =>
    match dump.parse with
    | .error bad => pure (.error (.ofBadIndex bad))
    | .ok (some module) => do
      .mark (parsedEvent module)
      return (← collect strict dumps).map (consModule module)
    | .ok none =>
      if strict then do
        .mark (unmatchedEvent dump)
        return .error (.unmatchedModule dump.moduleName dump.path)
      else do
        .mark (skippedEvent dump)
        return (← collect strict dumps).map (consFailed dump.moduleName)

/-- Parses dumps and tells when all of them have been gone through. -/
def parse (strict : Bool) (dumps : List Interface) : Traced LogEvent (Except FaultCause Batch) := do
  let result ← collect strict dumps
  match result with
  | .ok batch => .mark (completeEvent batch)
  | .error _ => pure ()
  return result

end Batch

end DeclGraph
