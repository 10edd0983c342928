import DeclGraph.Config.Load
import DeclGraph.Proofs.Config.Destination
import DeclGraph.Proofs.Config.Sources

/-!
Configurations as they are written: what passes a check once is settled, so that writing it out and
checking it again gives it back, whatever the home directories have become.
-/

namespace DeclGraph

namespace Checked

variable {α : Type} {check : Datum → Checked α}

theorem mem_of_itemsFrom {items : List Datum} {start : Nat} {as : List α} {a : α}
    (h : itemsFrom check start items = .ok as) (ha : a ∈ as) : ∃ item, check item = .ok a := by
  induction items generalizing start as with
  | nil =>
    cases h
    cases ha
  | cons item items ih =>
    rw [itemsFrom] at h
    obtain ⟨⟨first, rest⟩, hboth, rfl⟩ := map_eq_ok_iff.mp h
    obtain ⟨hfirst, hrest⟩ := both_eq_ok_iff.mp hboth
    rcases List.mem_cons.mp ha with rfl | ha
    · exact ⟨item, under_eq_ok_iff.mp hfirst⟩
    · exact ih hrest ha

theorem itemsFrom_map {toDatum : α → Datum} {as : List α}
    (h : ∀ a ∈ as, check (toDatum a) = .ok a) (start : Nat) :
    itemsFrom check start (as.map toDatum) = .ok as := by
  induction as generalizing start with
  | nil => rfl
  | cons a as ih =>
    rw [List.forall_mem_cons] at h
    have hfirst : under (.index start) (check (toDatum a)) = .ok a := under_eq_ok_iff.mpr h.1
    rw [List.map_cons, itemsFrom, hfirst, ih h.2 (start + 1)]
    rfl

end Checked

open Checked

namespace Config

variable {homes : Homes} {settings : Entries} {config : Config}

/-- Each output goes to a destination that is read as it is written. -/
def IsSettled (config : Config) : Prop :=
  ∀ output ∈ config.logging.outputs, output.destination.IsSettled

/-! Single values -/

theorem checkLevel_name (level : LogLevel) : checkLevel (.str level.name) = .ok level := by
  cases level <;> decide

theorem checkOutputLevel_name (level : Option LogLevel) :
    checkOutputLevel (match level with
      | some level => .str level.name
      | none => .null) = .ok level := by
  cases level with
  | none => rfl
  | some level =>
    show (checkLevel (.str level.name)).map some = .ok (some level)
    rw [checkLevel_name]
    rfl

theorem checkFormat_name (format : LogFormat) : checkFormat (.str format.name) = .ok format := by
  cases format <;> decide

theorem checkDestinationText_eq_ok {value : Datum} {text : String} {destination : Destination}
    (h : checkDestinationText homes value text = .ok destination) :
    Destination.ofText homes text = .ok destination := by
  unfold checkDestinationText at h
  split at h
  · next hread =>
    cases h
    exact hread
  · cases h
  · cases h
  · cases h

theorem isSettled_of_checkDestination {value : Datum} {destination : Destination}
    (h : checkDestination homes value = .ok destination) : destination.IsSettled := by
  unfold checkDestination at h
  split at h
  · exact Destination.isSettled_of_ofText (checkDestinationText_eq_ok h)
  · split at h
    · exact Destination.isSettled_of_ofText (checkDestinationText_eq_ok h)
    · cases h
  · cases h

theorem checkDestination_text {destination : Destination} (h : destination.IsSettled) :
    checkDestination homes (.str destination.text) = .ok destination := by
  show checkDestinationText homes _ _ = _
  rw [checkDestinationText, h.ofText_text homes]

theorem isSettled_of_checkOutput {value : Datum} {output : LogOutput}
    (h : checkOutput homes value = .ok output) : output.destination.IsSettled := by
  obtain ⟨entries, -, hentries⟩ := mapping_eq_ok_iff.mp h
  obtain ⟨⟨format, destination, level⟩, hboth, rfl⟩ := map_eq_ok_iff.mp hentries
  obtain ⟨-, hrest⟩ := both_eq_ok_iff.mp hboth
  obtain ⟨hdestination, -⟩ := both_eq_ok_iff.mp hrest
  rw [field_eq_ok_iff] at hdestination
  cases hget : Entries.get? entries (.str "destination") with
  | none =>
    rw [hget] at hdestination
    obtain rfl : destination = .stderr := hdestination
    trivial
  | some value =>
    rw [hget] at hdestination
    exact isSettled_of_checkDestination hdestination

theorem checkOutput_toDatum {output : LogOutput} (h : output.destination.IsSettled) :
    checkOutput homes output.toDatum = .ok output := by
  obtain ⟨format, destination, level⟩ := output
  apply mapping_eq_ok_iff.mpr
  refine ⟨_, rfl, ?_⟩
  apply map_eq_ok_iff.mpr
  refine ⟨(format, destination, level), ?_, rfl⟩
  refine both_eq_ok_iff.mpr ⟨?_, both_eq_ok_iff.mpr ⟨?_, ?_⟩⟩
  · exact field_eq_ok_iff.mpr (checkFormat_name format)
  · exact field_eq_ok_iff.mpr (checkDestination_text h)
  · exact field_eq_ok_iff.mpr (checkOutputLevel_name level)

/-! Whole configurations -/

namespace Setting

/-- The value of a field as it is written. -/
def toDatum (config : Config) : Setting → Datum
  | level => .str config.logging.level.name
  | outputs => .list (config.logging.outputs.map LogOutput.toDatum)
  | strict => .bool config.strict
  | dumpParsed => .bool config.dumpParsed

theorem of?_toEntries (config : Config) (setting : Setting) :
    setting.of? config.toEntries = some (setting.toDatum config) := by
  cases setting <;> rfl

theorem check_toDatum (h : config.IsSettled) (setting : Setting) :
    setting.check homes (setting.toDatum config) = .ok (setting.get config) := by
  cases setting with
  | level => exact checkLevel_name config.logging.level
  | outputs =>
    show itemsFrom (checkOutput homes) 0 (config.logging.outputs.map LogOutput.toDatum) = _
    apply itemsFrom_map
    intro output houtput
    exact checkOutput_toDatum (h output houtput)
  | strict | dumpParsed => rfl

end Setting

theorem isSettled_of_check (h : Config.check homes settings = .ok config) : config.IsSettled := by
  have houtputs := get_of_check h .outputs
  intro output houtput
  cases hvalue : Setting.outputs.of? settings with
  | none =>
    rw [hvalue] at houtputs
    have hdefault : config.logging.outputs = [.default] := houtputs
    rw [hdefault] at houtput
    obtain rfl := List.mem_singleton.mp houtput
    trivial
  | some value =>
    rw [hvalue] at houtputs
    have hchecked : checkOutputs homes value = .ok config.logging.outputs := houtputs
    unfold checkOutputs at hchecked
    split at hchecked
    · obtain ⟨item, hitem⟩ := mem_of_itemsFrom hchecked houtput
      exact isSettled_of_checkOutput hitem
    · cases hchecked

theorem checkKeys_of_isSection (h : ∀ entry ∈ settings, isSection entry.1) :
    checkKeys settings = .ok () := by
  have hnone : List.filter (fun entry => !isSection entry.1) settings = [] := by
    rw [List.filter_eq_nil_iff]
    intro entry hentry
    simp [h entry hentry]
  rw [checkKeys_filter, hnone]
  rfl

theorem section_of_fields {α : Type} {sectionName form : String} {default a : α}
    {checkFields : Entries → Checked α} {setting : Setting} {value : Datum}
    (hsection : setting.sectionName = sectionName) (hvalue : setting.of? settings = some value)
    (hfields : checkFields (fields settings sectionName) = .ok a) :
    field settings sectionName default (mapping form checkFields) = .ok a := by
  subst hsection
  obtain ⟨whole, hwhole, hentries⟩ := exists_section_of_of? hvalue
  rw [field_eq_ok_iff, hwhole]
  exact mapping_eq_ok_iff.mpr ⟨_, hentries, hfields⟩

/-- Settings are read as a configuration if each of its fields has a value in them that passes for
it, and there is nothing around the sections. -/
theorem check_of_fields (hkeys : ∀ entry ∈ settings, isSection entry.1)
    (hfields : ∀ setting : Setting, ∃ value, setting.of? settings = some value ∧
      setting.check homes value = .ok (setting.get config)) :
    Config.check homes settings = .ok config := by
  have hfield (setting : Setting) (default : setting.Value) :
      field (fields settings setting.sectionName) setting.name default (setting.check homes) =
        .ok (setting.get config) := by
    obtain ⟨value, hvalue, hpasses⟩ := hfields setting
    rw [field_eq_ok_iff, ← field?, ← Setting.of?, hvalue]
    exact hpasses
  obtain ⟨level, hlevel, -⟩ := hfields .level
  obtain ⟨strict, hstrict, -⟩ := hfields .strict
  obtain ⟨dumpParsed, hdumpParsed, -⟩ := hfields .dumpParsed
  have hlogging : field settings "logging" .default (checkLogging homes) = .ok config.logging := by
    apply section_of_fields rfl hlevel
    apply map_eq_ok_iff.mpr
    refine ⟨(config.logging.level, config.logging.outputs), both_eq_ok_iff.mpr ⟨?_, ?_⟩, rfl⟩
    · exact hfield .level .info
    · exact hfield .outputs [.default]
  have hparse : field settings "parse" false checkParse = .ok config.strict :=
    section_of_fields rfl hstrict (hfield .strict false)
  have hdebug : field settings "debug" false checkDebug = .ok config.dumpParsed :=
    section_of_fields rfl hdumpParsed (hfield .dumpParsed false)
  rw [Config.check, hlogging, hparse, hdebug, checkKeys_of_isSection hkeys]
  rfl

theorem isSection_of_mem_toEntries (config : Config) :
    ∀ entry ∈ config.toEntries, isSection entry.1 := by
  intro entry hentry
  have hkey : entry.1 = .str "logging" ∨ entry.1 = .str "parse" ∨ entry.1 = .str "debug" := by
    simp only [toEntries, List.mem_cons, List.not_mem_nil, or_false] at hentry
    rcases hentry with rfl | rfl | rfl
    · exact .inl rfl
    · exact .inr (.inl rfl)
    · exact .inr (.inr rfl)
  rcases hkey with hkey | hkey | hkey <;> rw [hkey] <;> decide

/-- A settled configuration is read from what it is written as. -/
theorem IsSettled.check_toEntries (h : config.IsSettled) (homes : Homes) :
    Config.check homes config.toEntries = .ok config := by
  apply check_of_fields (isSection_of_mem_toEntries config)
  intro setting
  exact ⟨setting.toDatum config, setting.of?_toEntries config, setting.check_toDatum h⟩

/-- The second check changes nothing and never fails. -/
theorem settle_eq (homes : Homes) (settings : Entries) :
    settle homes settings = (Config.check homes settings).mapError .ofRejection := by
  unfold settle
  cases hcheck : Config.check homes settings with
  | error rejection => rfl
  | ok config =>
    have hagain := (isSettled_of_check hcheck).check_toEntries homes
    simp only [Except.mapError, bind, Except.bind, hagain]

end Config

end DeclGraph
