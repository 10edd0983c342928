import DeclGraph.Proofs.Config.Report

/-!
Values that pass at a place of settings. Each place that a check reports inside the sections has
some.
-/

namespace DeclGraph.Config

open Checked Rejection

/-- A value passes at a place inside the sections. -/
inductive FitsAt (homes : Homes) : Location → Datum → Prop
  | logging {d : Datum} {log : LogConfig} (h : checkLogging homes d = .ok log) :
      FitsAt homes [.key "logging"] d
  | parse {d : Datum} {strict : Bool} (h : checkParse d = .ok strict) :
      FitsAt homes [.key "parse"] d
  | debug {d : Datum} {dumpParsed : Bool} (h : checkDebug d = .ok dumpParsed) :
      FitsAt homes [.key "debug"] d
  | field {d : Datum} (setting : Setting) {value : setting.Value}
      (h : setting.check homes d = .ok value) :
      FitsAt homes [.key setting.sectionName, .key setting.name] d
  | output {d : Datum} (i : Nat) {output : LogOutput} (h : checkOutput homes d = .ok output) :
      FitsAt homes [.key "logging", .key "outputs", .index i] d
  | format {d : Datum} (i : Nat) {format : LogFormat} (h : checkFormat d = .ok format) :
      FitsAt homes [.key "logging", .key "outputs", .index i, .key "format"] d
  | destination {d : Datum} (i : Nat) {destination : Destination}
      (h : checkDestination homes d = .ok destination) :
      FitsAt homes [.key "logging", .key "outputs", .index i, .key "destination"] d
  | outputLevel {d : Datum} (i : Nat) {level : Option LogLevel}
      (h : checkOutputLevel d = .ok level) :
      FitsAt homes [.key "logging", .key "outputs", .index i, .key "level"] d

variable {homes : Homes} {settings : Entries} {location : Location} {e : Invalid}
  {rest : List Rejection}

theorem FitsAt.exists_section {new : Datum} (h : FitsAt homes location new) :
    ∃ name ∈ sections, ∃ inner, location = .key name :: inner := by
  cases h with
  | logging | output | format | destination | outputLevel =>
      exact ⟨"logging", by decide, _, rfl⟩
  | parse => exact ⟨"parse", by decide, _, rfl⟩
  | debug => exact ⟨"debug", by decide, _, rfl⟩
  | field setting => exact ⟨setting.sectionName, by cases setting <;> decide, _, rfl⟩

theorem rejections_eq_nil {α : Type} {x : Checked α} {a : α} {rejections : List Rejection}
    (h : refusal? x = first rejections) (hx : x = .ok a) : rejections = [] := by
  rw [hx] at h
  exact first_eq_none_iff.mp h.symm

theorem rejections_value_eq_nil {α : Type} {leaf : Leaf} {d : Datum} {x : Checked α} {a : α}
    (h : leaf.check? homes d = refusal? x) (hx : x = .ok a) :
    (Form.value leaf).rejections homes d = [] := by
  rw [Form.rejections, h, hx]
  rfl

theorem FitsAt.exists_form {new : Datum} (h : FitsAt homes location new) :
    ∃ here, sectionsForm.at? location = some here ∧ here.rejections homes new = [] := by
  cases h with
  | logging h => exact ⟨_, rfl, rejections_eq_nil (refusal?_checkLogging new) h⟩
  | parse h => exact ⟨_, rfl, rejections_eq_nil (refusal?_flag new) h⟩
  | debug h => exact ⟨_, rfl, rejections_eq_nil (refusal?_flag new) h⟩
  | field setting h =>
      cases setting with
      | level => exact ⟨.value .level, rfl, rejections_value_eq_nil rfl h⟩
      | outputs => exact ⟨_, rfl, rejections_eq_nil (refusal?_checkOutputs new) h⟩
      | strict => exact ⟨.value .flag, rfl, rejections_value_eq_nil rfl h⟩
      | dumpParsed => exact ⟨.value .flag, rfl, rejections_value_eq_nil rfl h⟩
  | output i h => exact ⟨_, rfl, rejections_eq_nil (refusal?_checkOutput new) h⟩
  | format i h => exact ⟨.value .format, rfl, rejections_value_eq_nil rfl h⟩
  | destination i h => exact ⟨.value .destination, rfl, rejections_value_eq_nil rfl h⟩
  | outputLevel i h => exact ⟨.value .outputLevel, rfl, rejections_value_eq_nil rfl h⟩

/-- A location that is reported inside a mapping, unless the mapping itself is none. -/
theorem location_of_mapping {name : String} {keys : List String} {nodup : keys.Nodup}
    {form : Step → Form} {d : Datum}
    (h : (Form.parts (.mapping name keys nodup) form).rejections homes d = .invalid e :: rest) :
    e.location = [] ∧ d.entries? = none ∨ ∃ key ∈ keys, ∃ part inner more,
      (form (.key key)).rejections homes part = .invalid inner :: more ∧
        e.location = .key key :: inner.location := by
  rcases Form.rejections_parts_eq_cons h with ⟨hnone, rfl, -⟩ | ⟨before, step, after, part, inner,
    more, hsteps, -, -, hinner, rfl, -⟩
  · exact .inl ⟨rfl, Option.map_eq_none_iff.mp hnone⟩
  · obtain ⟨key, hkey, rfl⟩ := Container.exists_key_of_steps? hsteps
    exact .inr ⟨key, hkey, part, inner, more, hinner, rfl⟩

theorem exists_section_of_rejections
    (h : sectionsForm.rejections homes (.map settings) = .invalid e :: rest) :
    ∃ name ∈ sections, ∃ part inner more,
      (sectionForm (.key name)).rejections homes part = .invalid inner :: more ∧
        e.location = .key name :: inner.location := by
  rcases location_of_mapping h with ⟨-, hnone⟩ | hkey
  · cases hnone
  · exact hkey

theorem location_of_value {leaf : Leaf} {d : Datum}
    (h : (Form.value leaf).rejections homes d = .invalid e :: rest) : e.location = [] :=
  (Form.rejections_value_eq_cons h).1

theorem exists_fitsAt_output {d : Datum} (i : Nat)
    (h : outputForm.rejections homes d = .invalid e :: rest) :
    ∃ new, FitsAt homes (.key "logging" :: .key "outputs" :: .index i :: e.location) new := by
  rcases location_of_mapping h with ⟨hnil, -⟩ | ⟨key, hkey, part, inner, more, hinner, hlocation⟩
  · rw [hnil]
    exact ⟨.map [], .output i rfl⟩
  · rw [hlocation]
    simp only [List.mem_cons, List.not_mem_nil, or_false] at hkey
    rcases hkey with rfl | rfl | rfl
    · rw [@location_of_value homes _ _ .format _ hinner]
      exact ⟨.str "json", .format i rfl⟩
    · rw [@location_of_value homes _ _ .destination _ hinner]
      exact ⟨.str "stderr", .destination i rfl⟩
    · rw [@location_of_value homes _ _ .outputLevel _ hinner]
      exact ⟨.null, .outputLevel i rfl⟩

theorem exists_fitsAt_outputs {d : Datum}
    (h : (Form.parts .list fun _ => outputForm).rejections homes d = .invalid e :: rest) :
    ∃ new, FitsAt homes (.key "logging" :: .key "outputs" :: e.location) new := by
  rcases Form.rejections_parts_eq_cons h with ⟨-, rfl, -⟩ | ⟨before, step, after, part, inner,
    more, hsteps, -, -, hinner, rfl, -⟩
  · exact ⟨.list [], .field .outputs rfl⟩
  · obtain ⟨i, rfl⟩ := Container.exists_index_of_steps? hsteps
    exact exists_fitsAt_output i hinner

theorem exists_fitsAt_logging {d : Datum}
    (h : loggingForm.rejections homes d = .invalid e :: rest) :
    ∃ new, FitsAt homes (.key "logging" :: e.location) new := by
  rcases location_of_mapping h with ⟨hnil, -⟩ | ⟨key, hkey, part, inner, more, hinner, hlocation⟩
  · rw [hnil]
    exact ⟨.map [], .logging rfl⟩
  · rw [hlocation]
    simp only [List.mem_cons, List.not_mem_nil, or_false] at hkey
    rcases hkey with rfl | rfl
    · rw [@location_of_value homes _ _ .level _ hinner]
      exact ⟨.str "INFO", .field .level rfl⟩
    · exact exists_fitsAt_outputs hinner

theorem location_of_flag {name key : String} {d : Datum}
    (h : (flagForm name key).rejections homes d = .invalid e :: rest) :
    e.location = [] ∨ e.location = [.key key] := by
  rcases location_of_mapping h with ⟨hnil, -⟩ | ⟨other, hother, part, inner, more, hinner,
    hlocation⟩
  · exact .inl hnil
  · rw [hlocation, @location_of_value homes _ _ .flag _ hinner, List.mem_singleton.mp hother]
    exact .inr rfl

/-- Each place that is reported inside the sections can be repaired. -/
theorem exists_fitsAt (h : sectionsForm.rejections homes (.map settings) = .invalid e :: rest) :
    ∃ new, FitsAt homes e.location new := by
  obtain ⟨name, hname, part, inner, more, hinner, hlocation⟩ := exists_section_of_rejections h
  rw [hlocation]
  simp only [sections, List.mem_cons, List.not_mem_nil, or_false] at hname
  rcases hname with rfl | rfl | rfl
  · exact exists_fitsAt_logging hinner
  · rcases location_of_flag hinner with hinner | hinner
    · rw [hinner]
      exact ⟨.map [], .parse rfl⟩
    · rw [hinner]
      exact ⟨.bool true, .field .strict rfl⟩
  · rcases location_of_flag hinner with hinner | hinner
    · rw [hinner]
      exact ⟨.map [], .debug rfl⟩
    · rw [hinner]
      exact ⟨.bool true, .field .dumpParsed rfl⟩

end DeclGraph.Config
