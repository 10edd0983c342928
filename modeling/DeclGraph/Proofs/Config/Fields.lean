import DeclGraph.Config.Source
import DeclGraph.Proofs.Datum.Entries
import DeclGraph.Proofs.Refusal

/-!
The fields of a configuration: each is read off one value of the settings, and nothing but the
values of the fields and the unknown keys decides what a check says.
-/

namespace DeclGraph

namespace Checked

variable {α β : Type}

theorem both_eq_ok_iff {x : Checked α} {y : Checked β} {a : α} {b : β} :
    both x y = .ok (a, b) ↔ x = .ok a ∧ y = .ok b := by
  cases x <;> cases y <;> simp [both]

theorem under_eq_ok_iff {step : Step} {x : Checked α} {a : α} :
    under step x = .ok a ↔ x = .ok a := by
  rcases x with (_ | _) | _ <;> simp [under]

theorem field_eq_ok_iff {entries : Entries} {key : String} {default a : α}
    {check : Datum → Checked α} :
    field entries key default check = .ok a ↔
      (entries.get? (.str key)).elim (a = default) fun value => check value = .ok a := by
  rw [field]
  cases entries.get? (.str key) with
  | none => simp [eq_comm]
  | some value => simp [under_eq_ok_iff]

theorem mapping_eq_ok_iff {form : String} {check : Entries → Checked α} {value : Datum} {a : α} :
    mapping form check value = .ok a ↔
      ∃ entries, value.entries? = some entries ∧ check entries = .ok a := by
  rw [mapping]
  cases value.entries? <;> simp [reject]

end Checked

namespace Config

open Checked

/-- The fields that settings have in a section. -/
def fields (settings : Entries) (sectionName : String) : Entries :=
  ((settings.get? (.str sectionName)).bind Datum.entries?).getD []

def field? (settings : Entries) (sectionName name : String) : Option Datum :=
  (fields settings sectionName).get? (.str name)

/-- The fields of all sections. -/
inductive Setting where
  | level
  | outputs
  | strict
  | dumpParsed
deriving DecidableEq, Repr

namespace Setting

def sectionName : Setting → String
  | level | outputs => "logging"
  | strict => "parse"
  | dumpParsed => "debug"

def name : Setting → String
  | level => "level"
  | outputs => "outputs"
  | strict => "strict"
  | dumpParsed => "dump_parsed"

theorem mem_fieldNames_iff {sectionName name : String} :
    name ∈ fieldNames sectionName ↔
      ∃ setting : Setting, setting.sectionName = sectionName ∧ setting.name = name := by
  constructor
  · unfold fieldNames
    split
    · rintro (_ | ⟨_, _ | ⟨_, ⟨⟩⟩⟩)
      · exact ⟨level, rfl, rfl⟩
      · exact ⟨outputs, rfl, rfl⟩
    · rintro (_ | ⟨_, ⟨⟩⟩)
      exact ⟨strict, rfl, rfl⟩
    · rintro (_ | ⟨_, ⟨⟩⟩)
      exact ⟨dumpParsed, rfl, rfl⟩
    · rintro ⟨⟩
  · rintro ⟨setting, rfl, rfl⟩
    cases setting <;> decide

/-- What a field holds. -/
abbrev Value : Setting → Type
  | level => LogLevel
  | outputs => List LogOutput
  | strict | dumpParsed => Bool

def default : (setting : Setting) → setting.Value
  | level => .info
  | outputs => [.default]
  | strict | dumpParsed => false

/-- The check of a value for a field. -/
def check (homes : Homes) : (setting : Setting) → Datum → Checked setting.Value
  | level => checkLevel
  | outputs => checkOutputs homes
  | strict | dumpParsed => checkBoolean

def get (config : Config) : (setting : Setting) → setting.Value
  | level => config.logging.level
  | outputs => config.logging.outputs
  | strict => config.strict
  | dumpParsed => config.dumpParsed

/-- The value of the field in settings. -/
def of? (setting : Setting) (settings : Entries) : Option Datum :=
  field? settings setting.sectionName setting.name

end Setting

variable {homes : Homes} {settings other : Entries}

/-! What is loaded -/

/-- A section that passes is absent, or a mapping whose fields pass. -/
theorem section_eq_ok {α : Type} {sectionName form : String} {default a : α}
    {checkFields : Entries → Checked α}
    (h : field settings sectionName default (mapping form checkFields) = .ok a) :
    (∀ name, field? settings sectionName name = none) ∧ a = default ∨
      ∃ entries, (∀ name, field? settings sectionName name = Entries.get? entries (.str name)) ∧
        checkFields entries = .ok a := by
  rw [field_eq_ok_iff] at h
  cases hget : settings.get? (.str sectionName) with
  | none =>
      rw [hget] at h
      exact .inl ⟨fun _ => by rw [field?, fields, hget]; rfl, h⟩
  | some value =>
      rw [hget] at h
      obtain ⟨entries, hentries, hfields⟩ := mapping_eq_ok_iff.mp h
      exact .inr ⟨entries, fun _ => by simp [field?, fields, hget, hentries], hfields⟩

theorem check_eq_ok {config : Config} (h : Config.check homes settings = .ok config) :
    field settings "logging" .default (checkLogging homes) = .ok config.logging ∧
      field settings "parse" false checkParse = .ok config.strict ∧
      field settings "debug" false checkDebug = .ok config.dumpParsed := by
  obtain ⟨⟨logging, strict, dumpParsed, _⟩, hboth, rfl⟩ := map_eq_ok_iff.mp h
  obtain ⟨hlogging, hrest⟩ := both_eq_ok_iff.mp hboth
  obtain ⟨hparse, hrest⟩ := both_eq_ok_iff.mp hrest
  exact ⟨hlogging, hparse, (both_eq_ok_iff.mp hrest).1⟩

theorem logging_eq_ok {entries : Entries} {log : LogConfig}
    (h : ((both (field entries "level" .info checkLevel)
      (field entries "outputs" [.default] (checkOutputs homes))).map
      fun (level, outputs) => (⟨level, outputs⟩ : LogConfig)) = .ok log) :
    field entries "level" .info checkLevel = .ok log.level ∧
      field entries "outputs" [.default] (checkOutputs homes) = .ok log.outputs := by
  obtain ⟨⟨level, outputs⟩, hboth, rfl⟩ := map_eq_ok_iff.mp h
  exact both_eq_ok_iff.mp hboth

/-- What is true of a field that a section has checked, or left out with the whole section. -/
theorem get_of_section {α β : Type} (get : α → β) {sectionName form name : String} {default a : α}
    {checkFields : Entries → Checked α} {checkField : Datum → Checked β}
    (h : field settings sectionName default (mapping form checkFields) = .ok a)
    (hfields : ∀ entries, checkFields entries = .ok a →
      field entries name (get default) checkField = .ok (get a)) :
    (field? settings sectionName name).elim (get a = get default) fun value =>
      checkField value = .ok (get a) := by
  rcases section_eq_ok h with ⟨hnone, hdefault⟩ | ⟨entries, hfield, hchecked⟩
  · rw [hnone, hdefault]
    rfl
  · rw [hfield]
    exact field_eq_ok_iff.mp (hfields entries hchecked)

/-- A loaded field is what the value of the field passes for, or the default if there is none. -/
theorem get_of_check {config : Config} (h : Config.check homes settings = .ok config)
    (setting : Setting) :
    (setting.of? settings).elim (setting.get config = setting.default) fun value =>
      setting.check homes value = .ok (setting.get config) := by
  obtain ⟨hlogging, hparse, hdebug⟩ := check_eq_ok h
  cases setting with
  | level => exact get_of_section LogConfig.level hlogging fun _ h => (logging_eq_ok h).1
  | outputs => exact get_of_section LogConfig.outputs hlogging fun _ h => (logging_eq_ok h).2
  | strict => exact get_of_section id hparse fun _ h => h
  | dumpParsed => exact get_of_section id hdebug fun _ h => h

/-! What decides a check -/

/-- Two settings agree on a section, or both have a mapping there with the same values by name. -/
def SectionAlike (sectionName : String) (settings other : Entries) : Prop :=
  settings.get? (.str sectionName) = other.get? (.str sectionName) ∨
    ∃ value entries value' entries',
      settings.get? (.str sectionName) = some value ∧ value.entries? = some entries ∧
      other.get? (.str sectionName) = some value' ∧ value'.entries? = some entries' ∧
      ∀ name, Entries.get? entries (.str name) = Entries.get? entries' (.str name)

theorem section_congr {α : Type} {sectionName : String}
    (h : SectionAlike sectionName settings other) {default : α} {form : String}
    {checkFields : Entries → Checked α}
    (hfields : ∀ entries entries' : Entries,
      (∀ name, entries.get? (.str name) = entries'.get? (.str name)) →
        checkFields entries = checkFields entries') :
    field settings sectionName default (mapping form checkFields) =
      field other sectionName default (mapping form checkFields) := by
  rcases h with hsame | ⟨value, entries, value', entries', hget, hentries, hget', hentries', hnames⟩
  · rw [field, field, hsame]
  · simp only [field, hget, hget', mapping, hentries, hentries', hfields entries entries' hnames]

theorem field_congr {α : Type} {entries entries' : Entries}
    (h : ∀ name, entries.get? (.str name) = entries'.get? (.str name)) (name : String) (default : α)
    (check : Datum → Checked α) :
    field entries name default check = field entries' name default check := by
  rw [field, field, h name]

theorem checkKeys_cons (key : Scalar) (value : Datum) (settings : Entries) :
    checkKeys ((key, value) :: settings) =
      if isSection key then checkKeys settings else checkKeys [(key, value)] := by
  rw [checkKeys.eq_def [(key, value)]]
  show (if isSection key = true then checkKeys settings else _) = _
  cases hkey : isSection key <;> simp [hkey]

/-- The keys that are checked are those of no section. -/
theorem checkKeys_filter (settings : Entries) :
    checkKeys settings = checkKeys (List.filter (fun entry => !isSection entry.1) settings) := by
  induction settings with
  | nil => rfl
  | cons entry settings ih =>
      obtain ⟨key, value⟩ := entry
      rw [List.filter_cons, checkKeys_cons]
      cases hkey : isSection key with
      | true => simpa [hkey] using ih
      | false => simpa [hkey] using (checkKeys_cons key value _).symm

theorem check_congr (hsections : ∀ name ∈ sections, SectionAlike name settings other)
    (hkeys : List.filter (fun entry => !isSection entry.1) settings =
      List.filter (fun entry => !isSection entry.1) other) :
    Config.check homes settings = Config.check homes other := by
  have hlogging : field settings "logging" .default (checkLogging homes) =
      field other "logging" .default (checkLogging homes) := by
    refine section_congr (hsections "logging" (by decide)) ?_
    intro _ _ hfields
    rw [field_congr hfields, field_congr hfields]
  have hparse : field settings "parse" false checkParse = field other "parse" false checkParse := by
    refine section_congr (hsections "parse" (by decide)) ?_
    intro _ _ hfields
    exact field_congr hfields "strict" false checkBoolean
  have hdebug : field settings "debug" false checkDebug = field other "debug" false checkDebug := by
    refine section_congr (hsections "debug" (by decide)) ?_
    intro _ _ hfields
    exact field_congr hfields "dump_parsed" false checkBoolean
  rw [Config.check, Config.check, checkKeys_filter settings, checkKeys_filter other, hkeys,
    hlogging, hparse, hdebug]

end Config

end DeclGraph
