import DeclGraph.Log.State
import DeclGraph.Proofs.Json.Ascii
import DeclGraph.Proofs.Json.Member

/-!
Lines of a log and the records they are written for. A line in JSON is read back as its record, and a
console line lays its record out, field by field.
-/

namespace DeclGraph

/-- An event, with its time and the configuration and the run in force when it is logged. -/
structure Logged where
  time : String
  event : LogEvent
  config : LogConfig
  runId : Option Datum

namespace Logged

/-- Names of what every record says besides the data of its event. -/
def addedNames : List String := ["timestamp", "level", "event", "logger", "run_id"]

/-- What the record of an event says under a name. -/
def value? (entry : Logged) (name : String) : Option Datum :=
  if name = "run_id" then entry.runId
  else if name = "timestamp" then some (.str entry.time)
  else if name = "logger" then some (.str entry.event.logger)
  else if name = "level" then some (.str entry.event.level.label)
  else if name = "event" then some (.str entry.event.name)
  else entry.event.given.get? (.str name)

/-- What an output shows of it. The log keeps some fields to itself. -/
def shown? (ownFields : List String) (entry : Logged) (name : String) : Option Datum :=
  if name ∈ ownFields then none else entry.value? name

def record (ownFields : List String) (entry : Logged) : Entries :=
  (entry.event.record entry.time entry.runId).without ownFields

end Logged

/-- Entries under distinct keys, all of which are texts. -/
structure Entries.AreNamed (entries : Entries) : Prop where
  distinct : entries.Distinct
  exists_name : ∀ entry ∈ entries, ∃ name, entry.1 = .str name

namespace Entries.AreNamed

variable {entries : Entries}

theorem insert (h : entries.AreNamed) (name : String) (value : Datum) :
    (entries.insert (.str name) value).AreNamed where
  distinct := h.distinct.insert _ _
  exists_name entry hentry := by
    rcases key_of_mem_insert hentry with hkey | ⟨old, hold, hkey⟩
    · exact ⟨name, hkey⟩
    · exact hkey ▸ h.exists_name old hold

theorem filter (h : entries.AreNamed) (keeps : Scalar × Datum → Bool) :
    AreNamed (List.filter keeps entries) where
  distinct := h.distinct.filter keeps
  exists_name entry hentry := h.exists_name entry (List.mem_of_mem_filter hentry)

theorem ofList (fields : List (String × Datum)) :
    (Entries.ofList (fields.map fun (name, value) => (.str name, value))).AreNamed := by
  unfold Entries.ofList Entries.insertAll
  refine List.foldlRecOn _ _ ⟨distinct_nil, List.forall_mem_nil _⟩ fun entries h field hfield => ?_
  obtain ⟨⟨name, value⟩, -, rfl⟩ := List.mem_map.mp hfield
  exact h.insert name value

end Entries.AreNamed

theorem LogEvent.areNamed_record (event : LogEvent) (time : String) (runId : Option Datum) :
    (event.record time runId).AreNamed := by
  have hgiven : event.given.AreNamed := .ofList event.fields
  have hadded := (((hgiven.insert "event" (.str event.name)).insert "level"
    (.str event.level.label)).insert "logger" (.str event.logger)).insert "timestamp" (.str time)
  cases runId with
  | none => exact hadded
  | some id => exact hadded.insert "run_id" id

namespace Logged

variable {entry : Logged} {ownFields : List String}

theorem areNamed_record : (entry.record ownFields).AreNamed :=
  (entry.event.areNamed_record entry.time entry.runId).filter _

/-- A record says what it should, if its event does not name a run itself. -/
theorem get?_record (hrun : entry.event.hasField "run_id" = false) (name : String) :
    (entry.record ownFields).get? (.str name) = entry.shown? ownFields name := by
  by_cases hown : name ∈ ownFields
  · rw [record, Entries.get?_without_of_mem hown, shown?, if_pos hown]
  · rw [record, Entries.get?_without hown, shown?, if_neg hown, value?]
    have hnone : entry.event.given.get? (.str "run_id") = none := by
      simpa [LogEvent.hasField] using hrun
    cases hid : entry.runId with
    | none =>
        by_cases hname : name = "run_id"
        · simp [hname, LogEvent.record, Entries.get?_insert, hnone]
        · simp only [hname, LogEvent.record, Entries.get?_insert, Scalar.str.injEq,
            eq_comm (b := name), if_false]
    | some id =>
        simp only [LogEvent.record, Entries.get?_insert, Scalar.str.injEq, eq_comm (b := name)]

/-! Lines in JSON -/

/-- A line is an object, the record of an event as it is read back, and says by its names what the
record shows. -/
def IsJsonLine (ownFields : List String) (entry : Logged) (line : String) : Prop :=
  ∃ entries : Entries, Json.read? line = some (.map entries) ∧
    Datum.map entries = Json.valueImage (.map (entry.record ownFields)) ∧
    ∀ name : String, Text.IsBasic name.toList →
      entries.get? (.str name) = (entry.shown? ownFields name).map Json.valueImage

/-- A record has a line in JSON if nothing in it stands in the way, once spelled out. -/
def FitsJson (record : Entries) : Prop := Json.obstacle? (Json.spellOut (.map record)) = none

theorem exists_json_line (hrun : entry.event.hasField "run_id" = false)
    (h : FitsJson (entry.record ownFields)) :
    ∃ line, LineForm.json.write (entry.record ownFields) = some line ∧
      Text.hasHalf line = false ∧ entry.IsJsonLine ownFields line := by
  have hwrite : LineForm.json.write (entry.record ownFields) =
      some (Json.text (Json.spellOut (.map (entry.record ownFields)))) := by
    rw [LineForm.write, Json.write, h]
    rfl
  refine ⟨_, hwrite, Json.hasHalf_text _, _, Json.read?_text h, rfl, fun name hbasic => ?_⟩
  rw [Json.get?_memberImages areNamed_record.distinct areNamed_record.exists_name hbasic,
    get?_record hrun]

theorem json_write_eq_none (h : ¬ FitsJson (entry.record ownFields)) :
    LineForm.json.write (entry.record ownFields) = none := by
  obtain ⟨obstacle, hobstacle⟩ := Option.ne_none_iff_exists'.mp h
  rw [LineForm.write, Json.write, hobstacle]
  rfl

/-! Console lines -/

/-- The values at the start of a console line. Empty ones are left out. -/
def consoleHead (ownFields : List String) (entry : Logged) : List String :=
  let loggerName := (entry.shown? ownFields "logger_name").toList.map fun value =>
    "[" ++ value.text ++ "]"
  ([entry.time, "[" ++ entry.event.level.label ++ "]", entry.event.name,
    "[" ++ entry.event.logger ++ "]"] ++ loggerName).filter (!·.isEmpty)

/-- A line starts with its leading values, goes on with the other fields, sorted by their names, and
ends with what the record tells of an error. -/
def IsConsoleLine (ownFields : List String) (entry : Logged) (line : String) : Prop :=
  ∃ fields : List (String × String),
    line = " ".intercalate (entry.consoleHead ownFields ++
        fields.map fun (name, text) => name ++ "=" ++ text) ++
      LineForm.errorText (entry.record ownFields) ∧
    fields.Pairwise (fun first second => first.1 < second.1) ∧
    ∀ name text, (name, text) ∈ fields ↔
      name ∉ LineForm.leadingKeys ∧ name ∉ LineForm.errorKeys ∧
        (entry.shown? ownFields name).map LineForm.consoleValue = some text

/-- A record has a line for the console, and one that a file takes. -/
def FitsConsole (record : Entries) : Prop :=
  LineForm.fitsConsole record = true ∧ Text.hasHalf (LineForm.consoleText record) = false

end Logged

namespace LineForm

open Entries

variable {record : Entries}

theorem isLeading_str_iff {name : String} : isLeading (.str name) = true ↔ name ∈ leadingKeys :=
  List.contains_iff_mem

/-- The fields of a console line besides the leading ones, each as it is shown. -/
theorem mem_fieldTexts (h : record.AreNamed) {name text : String} :
    (name, text) ∈ fieldTexts record ↔
      name ∉ leadingKeys ∧ (record.get? (.str name)).map consoleValue = some text := by
  rw [fieldTexts, List.mem_mergeSort, List.mem_map]
  constructor
  · rintro ⟨⟨key, value⟩, hentry, heq⟩
    obtain ⟨hmem, hleading⟩ := List.mem_filter.mp hentry
    obtain ⟨other, rfl⟩ := h.exists_name _ hmem
    obtain ⟨rfl, rfl⟩ : other = name ∧ consoleValue value = text := Prod.mk.inj heq
    rw [h.distinct.get?_eq_some_iff.mpr hmem]
    refine ⟨fun hlead => ?_, rfl⟩
    simp [isLeading_str_iff.mpr hlead] at hleading
  · rintro ⟨hleading, hvalue⟩
    obtain ⟨value, hget, rfl⟩ := Option.map_eq_some_iff.mp hvalue
    have hrest : (!isLeading (.str name)) = true := by
      simpa using mt isLeading_str_iff.mp hleading
    exact ⟨(.str name, value),
      List.mem_filter.mpr ⟨h.distinct.get?_eq_some_iff.mp hget, hrest⟩, rfl⟩

theorem nodup_fieldTexts (h : record.AreNamed) : ((fieldTexts record).map (·.1)).Nodup := by
  have hperm := List.mergeSort_perm
    ((List.filter (fun entry => !isLeading entry.1) record).map fieldText)
    fun first second => decide (first.1 ≤ second.1)
  have hrest := h.filter fun entry => !isLeading entry.1
  refine (hperm.map (·.1)).nodup_iff.mpr ?_
  rw [List.map_map, List.Nodup, List.pairwise_map]
  refine (List.pairwise_map.mp hrest.distinct).imp_of_mem ?_
  rintro ⟨first, _⟩ ⟨second, _⟩ hfirst hsecond hne heq
  obtain ⟨name, rfl⟩ := hrest.exists_name _ hfirst
  obtain ⟨other, rfl⟩ := hrest.exists_name _ hsecond
  exact hne (Scalar.sameKey_str_iff.mpr (congrArg Scalar.str heq))

/-- Fields are sorted by their names, and each name stands once. -/
theorem pairwise_fieldTexts (h : record.AreNamed) :
    (fieldTexts record).Pairwise fun first second => first.1 < second.1 := by
  have hsorted : (fieldTexts record).Pairwise fun first second => decide (first.1 ≤ second.1) := by
    refine List.pairwise_mergeSort ?_ ?_ _
    · intro a b c hab hbc
      exact decide_eq_true (String.le_trans (of_decide_eq_true hab) (of_decide_eq_true hbc))
    · intro a b
      simpa using String.le_total a.1 b.1
  have hnodup := List.pairwise_map.mp (nodup_fieldTexts h)
  exact (hsorted.and hnodup).imp fun ⟨hle, hne⟩ => Std.lt_of_le_of_ne (of_decide_eq_true hle) hne

theorem leading_eq (record : Entries) (key : String) (form : String → String) :
    leading record key form =
      ((record.get? (.str key)).toList.map fun value => form value.text).filter (!·.isEmpty) := by
  rw [leading]
  cases record.get? (.str key) <;> rfl

end LineForm

namespace Logged

variable {entry : Logged} {ownFields : List String}

theorem consoleLine_record (hadded : ∀ name ∈ addedNames, name ∉ ownFields)
    (hrun : entry.event.hasField "run_id" = false) :
    LineForm.consoleLine ((entry.record ownFields).without LineForm.errorKeys) =
      " ".intercalate (entry.consoleHead ownFields ++
        (LineForm.fieldTexts ((entry.record ownFields).without LineForm.errorKeys)).map
          fun (name, text) => name ++ "=" ++ text) := by
  have hleading (name : String) (herror : name ∉ LineForm.errorKeys) (form : String → String) :
      LineForm.leading ((entry.record ownFields).without LineForm.errorKeys) name form =
        ((entry.shown? ownFields name).toList.map fun value => form value.text).filter
          (!·.isEmpty) := by
    rw [LineForm.leading_eq, Entries.get?_without herror, get?_record hrun]
  have hshown (name : String) (hname : name ∈ addedNames) :
      entry.shown? ownFields name = entry.value? name := by
    rw [shown?, if_neg (hadded name hname)]
  rw [LineForm.consoleLine, hleading _ (by decide), hleading _ (by decide), hleading _ (by decide),
    hleading _ (by decide), hleading _ (by decide), hshown "timestamp" (by decide),
    hshown "level" (by decide), hshown "event" (by decide), hshown "logger" (by decide),
    ← List.filter_append, ← List.filter_append, ← List.filter_append, ← List.filter_append]
  rfl

theorem exists_console_line (hadded : ∀ name ∈ addedNames, name ∉ ownFields)
    (hrun : entry.event.hasField "run_id" = false) (h : FitsConsole (entry.record ownFields)) :
    ∃ line, LineForm.console.write (entry.record ownFields) = some line ∧
      Text.hasHalf line = false ∧ entry.IsConsoleLine ownFields line := by
  have hwrite : LineForm.console.write (entry.record ownFields) =
      some (LineForm.consoleText (entry.record ownFields)) := by
    rw [LineForm.write, if_pos h.1]
  have hnamed : ((entry.record ownFields).without LineForm.errorKeys).AreNamed :=
    areNamed_record.filter _
  refine ⟨_, hwrite, h.2, LineForm.fieldTexts _, ?_, LineForm.pairwise_fieldTexts hnamed, ?_⟩
  · rw [LineForm.consoleText, consoleLine_record hadded hrun]
  · intro name text
    rw [LineForm.mem_fieldTexts hnamed]
    refine and_congr_right fun _ => ?_
    by_cases herror : name ∈ LineForm.errorKeys
    · simp [herror, Entries.get?_without_of_mem herror]
    · rw [Entries.get?_without herror, get?_record hrun]
      simp [herror]

/-! Lines in the format of an output -/

/-- A line tells of an event in a format. -/
def IsLine (ownFields : List String) (entry : Logged) : LogFormat → String → Prop
  | .json => entry.IsJsonLine ownFields
  | .console => entry.IsConsoleLine ownFields

/-- A record can be written to a file in a format. -/
def Fits (record : Entries) : LogFormat → Prop
  | .json => FitsJson record
  | .console => FitsConsole record

instance (record : Entries) (format : LogFormat) : Decidable (Fits record format) :=
  match format with
  | .json => inferInstanceAs (Decidable (Json.obstacle? _ = none))
  | .console => inferInstanceAs (Decidable (LineForm.fitsConsole record = true ∧ _ = false))

variable {path : String} {format : LogFormat}

theorem text?_file {form : LineForm} {record : Entries} {line : String}
    (hwrite : form.write record = some line) :
    Delivery.text? ⟨.file path, form, record⟩ =
      if Text.hasHalf line = false then some line else none := by
  rw [Delivery.text?, hwrite, Option.filter_some, Destination.takes]
  cases Text.hasHalf line <;> rfl

theorem exists_text (hadded : ∀ name ∈ addedNames, name ∉ ownFields)
    (hrun : entry.event.hasField "run_id" = false) (h : Fits (entry.record ownFields) format) :
    ∃ line, Delivery.text? ⟨.file path, format.lineForm, entry.record ownFields⟩ = some line ∧
      entry.IsLine ownFields format line := by
  cases format with
  | json =>
      obtain ⟨line, hwrite, hhalf, hline⟩ := exists_json_line hrun h
      exact ⟨line, (text?_file hwrite).trans (if_pos hhalf), hline⟩
  | console =>
      obtain ⟨line, hwrite, hhalf, hline⟩ := exists_console_line hadded hrun h
      exact ⟨line, (text?_file hwrite).trans (if_pos hhalf), hline⟩

theorem text?_eq_none (h : ¬ Fits (entry.record ownFields) format) :
    Delivery.text? ⟨.file path, format.lineForm, entry.record ownFields⟩ = none := by
  cases format with
  | json =>
      rw [Delivery.text?, LogFormat.lineForm, json_write_eq_none h]
      rfl
  | console =>
      by_cases hfits : LineForm.fitsConsole (entry.record ownFields) = true
      · have hwrite : LineForm.console.write (entry.record ownFields) =
            some (LineForm.consoleText (entry.record ownFields)) := if_pos hfits
        exact (text?_file hwrite).trans (if_neg fun hhalf => h ⟨hfits, hhalf⟩)
      · have hwrite : LineForm.console.write (entry.record ownFields) = none := if_neg hfits
        rw [Delivery.text?, LogFormat.lineForm, hwrite]
        rfl

end Logged

/-! Events that are refused -/

/-- The log takes an event that leaves the names alone that every event has, and names no origin. -/
def LogEvent.IsTaken (event : LogEvent) : Prop :=
  (∀ name ∈ ["event", "self", "method_name"], event.hasField name = false) ∧
    (event.given.get? (.str "_record")).getD .null = .null

instance (event : LogEvent) : Decidable event.IsTaken :=
  inferInstanceAs (Decidable ((∀ name ∈ ["event", "self", "method_name"], _ = false) ∧ _ = _))

theorem Log.refusal?_eq_none_iff {log : Log} {event : LogEvent}
    (hlevel : log.config.level.admits event.level = true) :
    log.refusal? event = none ↔ event.IsTaken := by
  have hfields : (∀ name ∈ ["event", "self", "method_name"], event.hasField name = false) ↔
      (event.hasField "event" || event.hasField "self") = false ∧
        event.hasField "method_name" = false := by
    simp [and_assoc]
  rw [Log.refusal?, LogEvent.IsTaken, hfields, hlevel]
  by_cases hreserved : (event.hasField "event" || event.hasField "self") = true
  · simp [hreserved]
  · by_cases hmethod : event.hasField "method_name" = true
    · simp [hreserved, hmethod]
    · simp only [hreserved, hmethod, Bool.not_true, Bool.false_eq_true, if_false, true_and]
      split <;> simp_all

end DeclGraph
