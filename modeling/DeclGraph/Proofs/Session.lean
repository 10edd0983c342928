import DeclGraph.Proofs.Log.Record
import DeclGraph.Proofs.Matching
import DeclGraph.Session

/-!
The contents of log files. Whatever is set up anew on the way, a file gets one line for each event and
each output that names the file and lets the event through, and the line tells of the event and of
the run in progress. There is none for an event that the log refuses, nor for a record that the output
cannot write.
-/

namespace DeclGraph

namespace Command

/-- The configuration that a command sets. -/
def config? : Command → Option LogConfig
  | configure config => some config
  | _ => none

/-- The run that a command begins, or `some none` if it ends the run in progress. -/
def runId? : Command → Option (Option Datum)
  | setRunId id => some (some id)
  | clearRunId => some none
  | _ => none

end Command

/-- The outputs of a file that the event passes: it is as severe as the configuration asks for, and
as the output does. -/
def Logged.outputs (path : String) (entry : Logged) : List LogOutput :=
  entry.config.outputs.filter fun output =>
    output.destination = .file path ∧ entry.config.level.rank ≤ entry.event.level.rank ∧
      (output.level.getD entry.config.level).rank ≤ entry.event.level.rank

namespace Logged

variable {path : String} {entry : Logged}

theorem destination_of_mem_outputs {output : LogOutput} (h : output ∈ entry.outputs path) :
    output.destination = .file path :=
  (of_decide_eq_true (List.mem_filter.mp h).2).1

theorem outputs_eq_filter (path : String) (entry : Logged)
    (hlevel : entry.config.level.rank ≤ entry.event.level.rank) :
    entry.outputs path =
      (entry.config.outputs.filter (·.admits entry.config.level entry.event.level)).filter
        (·.destination = .file path) := by
  simp [outputs, LogOutput.admits, LogLevel.admits, hlevel]

end Logged

namespace Session

/-- The configuration that was set last, in a session that began with `first`. -/
def configInForce (first : LogConfig) (before : List Command) : LogConfig :=
  (before.filterMap Command.config?).getLastD first

/-- The run that was begun last, unless one was ended since. -/
def runIdInForce (before : List Command) : Option Datum :=
  (before.filterMap Command.runId?).getLastD none

/-- The events of commands that follow others. -/
def logged (first : LogConfig) : (before commands : List Command) → List Logged
  | _, [] => []
  | before, command :: commands =>
    command.events.map (fun (time, event) =>
      ⟨time, event, configInForce first before, runIdInForce before⟩) ++
      logged first (before ++ [command]) commands

/-- The events that a file should get, each with the outputs that bring it there, in order. -/
def deliveries (path : String) (entries : List Logged) : List (Logged × LogOutput) :=
  entries.flatMap fun entry => (entry.outputs path).map fun output => (entry, output)

/-- An event is written by an output if the log takes it and its record has a line. -/
def IsWritten (ownFields : List String) (delivery : Logged × LogOutput) : Prop :=
  delivery.1.event.IsTaken ∧ Logged.Fits (delivery.1.record ownFields) delivery.2.format

instance (ownFields : List String) : DecidablePred (IsWritten ownFields) :=
  fun _ => inferInstanceAs (Decidable (_ ∧ _))

/-- What an output leaves in a file. -/
def line? (ownFields : List String) (path : String) (delivery : Logged × LogOutput) :
    Option String :=
  if delivery.1.event.IsTaken then
    Delivery.text? ⟨.file path, delivery.2.format.lineForm, delivery.1.record ownFields⟩
  else none

/-! What is in force -/

/-- The log is what the commands so far have made of it. -/
structure Follows (log : Log) (first : LogConfig) (before : List Command) : Prop where
  config : log.config = configInForce first before
  runId : log.runId = runIdInForce before

theorem Follows.start {log : Log} (h : log.runId = none) (first : LogConfig) :
    Follows (log.configure first) first [] := ⟨rfl, h⟩

theorem Follows.next {log : Log} {first : LogConfig} {before : List Command}
    (h : Follows log first before) (command : Command) :
    Follows (command.next log) first (before ++ [command]) := by
  have hconfig := h.config
  have hrun := h.runId
  cases command <;>
    constructor <;>
    simp_all [Command.next, Log.configure, Log.setRunId, Log.clearRunId, configInForce,
      runIdInForce, Command.config?, Command.runId?]

@[simp] theorem ownFields_next (command : Command) (log : Log) :
    (command.next log).ownFields = log.ownFields := by
  cases command <;> rfl

/-! What a file gets -/

section Contents

variable {destination : Destination} {path : String}

theorem contents_append (xs ys : List Written) :
    contents destination (xs ++ ys) = contents destination xs ++ contents destination ys := by
  simp [contents]

theorem contents_filterMap (deliveries : List Delivery) :
    contents destination (deliveries.filterMap fun delivery =>
        delivery.text?.map fun text => ⟨delivery.destination, text⟩) =
      (deliveries.filter (·.destination = destination)).filterMap Delivery.text? := by
  induction deliveries with
  | nil => rfl
  | cons delivery deliveries ih =>
      rw [contents] at ih ⊢
      by_cases hhere : delivery.destination = destination
      · cases htext : delivery.text? <;> simp [htext, hhere, ih]
      · cases htext : delivery.text? <;> simp [htext, hhere, ih]

/-- Without outputs no event goes to a file. -/
theorem filter_fallback (event : LogEvent) (record : Entries) :
    (Log.fallback event record).filter (·.destination = .file path) = [] := by
  rw [Log.fallback]
  split <;> rfl

/-- One event leaves a line for each output of the file that it passes. -/
theorem contents_write (log : Log) (time : String) (event : LogEvent) :
    contents (.file path) (log.write time event) =
      (deliveries path [⟨time, event, log.config, log.runId⟩]).filterMap
        (line? log.ownFields path) := by
  rw [Log.write, contents_filterMap, Log.deliveries]
  by_cases hlevel : log.config.level.rank ≤ event.level.rank
  · have hadmits : log.config.level.admits event.level = true := decide_eq_true hlevel
    by_cases htaken : event.IsTaken
    · have hrefusal := (Log.refusal?_eq_none_iff hadmits).mpr htaken
      by_cases hempty : log.config.outputs = []
      · simp [hrefusal, hadmits, hempty, filter_fallback, deliveries, Logged.outputs]
      · have houtputs := Logged.outputs_eq_filter path
          ⟨time, event, log.config, log.runId⟩ hlevel
        simp only [hrefusal, hadmits, hempty, Option.isSome_none, Bool.not_true, Bool.or_self,
          Bool.false_eq_true, if_false, List.isEmpty_iff, List.filter_map, List.filterMap_map,
          deliveries, List.flatMap_singleton]
        refine (congrArg (List.filterMap _) houtputs.symm).trans ?_
        refine List.filterMap_congr fun output houtput => ?_
        simp [line?, htaken, Logged.destination_of_mem_outputs houtput, Logged.record]
    · -- a refused event leaves nothing, and no pair has a line for it
      have hrefusal := mt (Log.refusal?_eq_none_iff hadmits).mp htaken
      simp [Option.isSome_iff_ne_none.mpr hrefusal, deliveries, line?, htaken]
  · simp [LogLevel.admits, hlevel, deliveries, Logged.outputs]

theorem deliveries_append (xs ys : List Logged) :
    deliveries path (xs ++ ys) = deliveries path xs ++ deliveries path ys :=
  List.flatMap_append

theorem contents_writeAll (log : Log) (events : List (String × LogEvent)) :
    contents (.file path) (log.writeAll events) =
      (deliveries path (events.map fun (time, event) =>
        ⟨time, event, log.config, log.runId⟩)).filterMap (line? log.ownFields path) := by
  induction events with
  | nil => rfl
  | cons entry events ih =>
      obtain ⟨time, event⟩ := entry
      have hrest : log.writeAll ((time, event) :: events) =
          log.write time event ++ log.writeAll events := List.flatMap_cons
      rw [hrest, contents_append, contents_write, ih, ← List.filterMap_append, ← deliveries_append]
      rfl

/-- Outlines of modules are shown elsewhere. -/
theorem contents_shown (command : Command) : contents (.file path) command.shown = [] := by
  unfold Command.shown
  split
  · unfold Batch.shown
    split <;> simp [contents]
  · rfl

/-- From a log that follows what came before, a file gets the lines of the events to come. -/
theorem contents_written {log : Log} {first : LogConfig} {before : List Command}
    (h : Follows log first before) (commands : List Command) :
    contents (.file path) (written log commands) =
      (deliveries path (logged first before commands)).filterMap (line? log.ownFields path) := by
  induction commands generalizing log before with
  | nil => rfl
  | cons command commands ih =>
      -- the rest starts from the log that this command leaves, which follows one command more
      rw [written, contents_append, Command.written, contents_append, contents_writeAll,
        contents_shown, List.append_nil, ih (h.next command), ownFields_next, h.config, h.runId,
        logged, deliveries_append, List.filterMap_append]

theorem written_append (log : Log) (commands more : List Command) :
    ∃ rest, written log (commands ++ more) = written log commands ++ rest := by
  induction commands generalizing log with
  | nil => exact ⟨written log more, rfl⟩
  | cons command commands ih =>
      obtain ⟨rest, hrest⟩ := ih (command.next log)
      exact ⟨rest, by rw [List.cons_append, written, hrest, written, List.append_assoc]⟩

end Contents

/-! What a record says of the run -/

/-- The events of a batch have no run of their own. -/
theorem hasField_of_mem_collect {strict : Bool} {dumps : List Interface} :
    ∀ event ∈ (Batch.collect strict dumps).marks, event.hasField "run_id" = false := by
  induction dumps with
  | nil => simp [Batch.collect]
  | cons dump dumps ih =>
      rw [Batch.collect]
      split
      · simp
      · rename_i module _
        have hparsed : (Batch.parsedEvent module).hasField "run_id" = false := rfl
        simpa [Traced.mark, hparsed] using ih
      · have hskipped : (Batch.skippedEvent dump).hasField "run_id" = false := rfl
        have hunmatched : (Batch.unmatchedEvent dump).hasField "run_id" = false := rfl
        split
        · simp [Traced.mark, hunmatched]
        · simpa [Traced.mark, hskipped] using ih

theorem hasField_of_mem_parse {strict : Bool} {dumps : List Interface} :
    ∀ event ∈ (Batch.parse strict dumps).marks, event.hasField "run_id" = false := by
  rw [Batch.parse, Traced.marks_bind]
  refine List.forall_mem_append.mpr ⟨hasField_of_mem_collect, ?_⟩
  cases (Batch.collect strict dumps).value with
  | error cause => simp
  | ok batch =>
      have hcomplete : (Batch.completeEvent batch).hasField "run_id" = false := rfl
      simp [Traced.mark, hcomplete]

theorem hasField_of_mem_events {command : Command}
    (h : ∀ time event, command = .emit time event → event.hasField "run_id" = false) :
    ∀ entry ∈ command.events, entry.2.hasField "run_id" = false := by
  cases command with
  | emit time event => exact List.forall_mem_singleton.mpr (h time event rfl)
  | batch clock strict dump dumps =>
      intro entry hentry
      obtain ⟨i, hi, rfl⟩ := List.mem_mapIdx.mp hentry
      exact hasField_of_mem_parse _ (List.getElem_mem hi)
  | configure _ => exact List.forall_mem_nil _
  | setRunId _ => exact List.forall_mem_nil _
  | clearRunId => exact List.forall_mem_nil _

theorem hasField_of_mem_logged {first : LogConfig} {before commands : List Command}
    (h : ∀ time event, Command.emit time event ∈ commands → event.hasField "run_id" = false) :
    ∀ entry ∈ logged first before commands, entry.event.hasField "run_id" = false := by
  induction commands generalizing before with
  | nil => exact List.forall_mem_nil _
  | cons command commands ih =>
      refine List.forall_mem_append.mpr ⟨?_, ih fun time event hevent =>
        h time event (.tail _ hevent)⟩
      intro entry hentry
      obtain ⟨⟨time, event⟩, hevent, rfl⟩ := List.mem_map.mp hentry
      refine hasField_of_mem_events ?_ (time, event) hevent
      rintro time event rfl
      exact h time event List.mem_cons_self

/-! Lines and what they tell -/

theorem forall₂_line? {ownFields : List String} {path : String}
    (hadded : ∀ name ∈ Logged.addedNames, name ∉ ownFields)
    {pairs : List (Logged × LogOutput)}
    (hrun : ∀ delivery ∈ pairs, delivery.1.event.hasField "run_id" = false) :
    List.Forall₂ (fun delivery line => delivery.1.IsLine ownFields delivery.2.format line)
      (pairs.filter (IsWritten ownFields)) (pairs.filterMap (line? ownFields path)) := by
  refine forall₂_filterMap ?_ ?_
  · rintro ⟨entry, output⟩ hmem hwritten
    obtain ⟨htaken, hfits⟩ := of_decide_eq_true hwritten
    rw [line?, if_pos htaken]
    exact Logged.exists_text hadded (hrun _ hmem) hfits
  · rintro ⟨entry, output⟩ - hwritten
    rw [line?]
    split
    · next htaken =>
      exact Logged.text?_eq_none fun hfits => of_decide_eq_false hwritten ⟨htaken, hfits⟩
    · rfl

/-- Two outputs of one file, of which the second is for warnings only. -/
def doubled : LogConfig :=
  ⟨.info, [⟨.json, .file "/a.log", none⟩, ⟨.console, .file "/a.log", some .warning⟩]⟩

/-- A run with a warning and a batch, and an event after the log was set up anew. -/
def interrupted : List Command :=
  [.setRunId (.str "r"), .emit "12:00" ⟨"tests", .warning, "first", [], false⟩,
    .batch (fun _ => "12:01") false false [], .clearRunId,
    .configure ⟨.debug, [⟨.console, .file "/b.log", none⟩]⟩,
    .emit "12:02" ⟨"tests", .debug, "second", [], false⟩]

/-- The warning of that run. -/
def warned : Logged :=
  ⟨"12:00", ⟨"tests", .warning, "first", [], false⟩, doubled, some (.str "r")⟩

theorem consoleText_warned : LineForm.consoleText (warned.record ["_record"]) =
    "12:00 [warning] first [tests] run_id=r" := by
  have hfields : LineForm.fieldTexts ((warned.record ["_record"]).without LineForm.errorKeys) =
      [("run_id", "r")] := by
    have hrest : (((warned.record ["_record"]).without LineForm.errorKeys).filter fun entry =>
        !LineForm.isLeading entry.1) = [(.str "run_id", .str "r")] := rfl
    rw [LineForm.fieldTexts, hrest, List.map_singleton, List.mergeSort_singleton]
    rfl
  rw [LineForm.consoleText, LineForm.consoleLine, hfields]
  rfl

/-- One output in JSON. -/
def plainly : LogConfig := ⟨.info, [⟨.json, .file "/a.log", none⟩]⟩

/-- An event that is refused for a field of its own, and one with a list that contains itself. -/
def unwritable : List Command :=
  [.emit "12:00" ⟨"tests", .info, "refused", [("_record", .int 1)], false⟩,
    .emit "12:01" ⟨"tests", .info, "circular",
      [("items", .knot 0 (.list [.loop 0 .square]))], false⟩]

end Session

end DeclGraph
