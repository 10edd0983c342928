import DeclGraph.Proofs.Config.Fields

/-!
Checks that end at once: they are those of settings that send an output below a home directory which
cannot be found.
-/

namespace DeclGraph

namespace Checked

variable {α β : Type}

/-- The check ended before it could report what is invalid. -/
def Ends (x : Checked α) : Prop := x = .error .unknownHome

theorem not_ends_ok (a : α) : ¬ Ends (.ok a) := nofun

theorem not_ends_reject (value : Datum) (reason : InvalidReason) :
    ¬ Ends (reject value reason : Checked α) := nofun

theorem ends_both_iff {x : Checked α} {y : Checked β} : Ends (both x y) ↔ Ends x ∨ Ends y := by
  rcases x with (_ | _) | _ <;> rcases y with (_ | _) | _ <;> simp [Ends, both, earlier]

theorem ends_map_iff {f : α → β} {x : Checked α} : Ends (x.map f) ↔ Ends x := by
  cases x <;> simp [Ends, Except.map]

theorem ends_under_iff {step : Step} {x : Checked α} : Ends (under step x) ↔ Ends x := by
  rcases x with (_ | _) | _ <;> simp [Ends, under]

theorem ends_field_iff {entries : Entries} {key : String} {default : α}
    {check : Datum → Checked α} :
    Ends (field entries key default check) ↔
      ∃ value, entries.get? (.str key) = some value ∧ Ends (check value) := by
  rw [field]
  cases entries.get? (.str key) with
  | none => simp [not_ends_ok]
  | some value => simp [ends_under_iff]

theorem ends_mapping_iff {form : String} {check : Entries → Checked α} {value : Datum} :
    Ends (mapping form check value) ↔
      ∃ entries, value.entries? = some entries ∧ Ends (check entries) := by
  rw [mapping]
  cases value.entries? <;> simp [not_ends_reject]

theorem ends_itemsFrom_iff {check : Datum → Checked α} {items : List Datum} {start : Nat} :
    Ends (itemsFrom check start items) ↔ ∃ item ∈ items, Ends (check item) := by
  induction items generalizing start with
  | nil => simp [itemsFrom, not_ends_ok]
  | cons item items ih =>
      rw [itemsFrom, ends_map_iff, ends_both_iff, ends_under_iff, ih, List.exists_mem_cons_iff]

end Checked

namespace Config

open Checked

variable {homes : Homes}

/-! Fields that name no destination -/

theorem ends_of_whole {α : Type} {value : Datum} {text : String} {check : String → Checked α}
    (h : Ends (whole value text check)) : Text.hasHalf text = false ∧ Ends (check text) := by
  unfold whole at h
  split at h
  · cases h
  · exact ⟨Bool.eq_false_iff.mpr ‹_›, h⟩

theorem not_ends_checkLevel (value : Datum) : ¬ Ends (checkLevel value) := by
  intro h
  unfold checkLevel at h
  split at h
  · have hname := (ends_of_whole h).2
    split at hname <;> cases hname
  · cases h

theorem not_ends_checkOutputLevel (value : Datum) : ¬ Ends (checkOutputLevel value) := by
  unfold checkOutputLevel
  split
  · exact not_ends_ok _
  · rw [ends_map_iff]
    exact not_ends_checkLevel value

theorem not_ends_checkFormat (value : Datum) : ¬ Ends (checkFormat value) := by
  intro h
  unfold checkFormat at h
  split at h
  · have hname := (ends_of_whole h).2
    split at hname <;> cases hname
  · cases h

theorem not_ends_booleanOfWord (value : Datum) (word : String) :
    ¬ Ends (booleanOfWord value word) := by
  unfold booleanOfWord
  split
  · exact not_ends_ok _
  · exact not_ends_reject _ _

theorem not_ends_booleanOfInt (value : Datum) (least n : Int) :
    ¬ Ends (booleanOfInt value least n) := by
  unfold booleanOfInt
  repeat' split
  · exact not_ends_ok _
  · exact not_ends_ok _
  · exact not_ends_reject _ _
  · exact not_ends_reject _ _

theorem not_ends_checkBoolean (value : Datum) : ¬ Ends (checkBoolean value) := by
  intro h
  unfold checkBoolean at h
  split at h
  · cases h
  · exact not_ends_booleanOfWord _ _ (ends_of_whole h).2
  · split at h
    · exact not_ends_booleanOfWord _ _ h
    · cases h
  · exact not_ends_booleanOfInt _ _ _ h
  · split at h
    · exact not_ends_booleanOfInt _ _ _ h
    · cases h
  · cases h

theorem not_ends_checkKeys (settings : Entries) : ¬ Ends (checkKeys settings) := by
  induction settings with
  | nil => exact not_ends_ok _
  | cons entry settings ih =>
      unfold checkKeys
      split
      · exact ih
      · rw [ends_under_iff]
        exact not_ends_reject _ _

/-! Destinations -/

/-- The text of a destination, if it is one. -/
def destinationText? : Datum → Option String
  | .str text => some text
  | .scalar (.bytes bytes) => bytesText? bytes
  | _ => none

/-- The text of the destination that an output names. -/
def outputText? (output : Datum) : Option String := do
  let entries ← output.entries?
  destinationText? (← Entries.get? entries (.str "destination"))

/-- The texts of all destinations that settings name. -/
def destinationTexts (settings : Entries) : List String :=
  (((Setting.outputs.of? settings).bind Datum.items?).getD []).filterMap outputText?

theorem ends_checkDestinationText_iff {value : Datum} {text : String} :
    Ends (checkDestinationText homes value text) ↔
      (Path.ofString text).expandHome homes = .error .unknownHome := by
  unfold checkDestinationText Destination.ofText
  by_cases hstderr : text = "stderr"
  · have hpath : (Path.ofString "stderr").expandHome homes = .ok ⟨0, ["stderr".toList]⟩ := rfl
    simp [hstderr, hpath, not_ends_ok]
  by_cases hstdout : text = "stdout"
  · have hpath : (Path.ofString "stdout").expandHome homes = .ok ⟨0, ["stdout".toList]⟩ := rfl
    simp [hstdout, hpath, not_ends_ok]
  cases hpath : (Path.ofString text).expandHome homes with
  | error problem => cases problem <;> simp [hstderr, hstdout, Ends, reject]
  | ok path =>
      cases habsolute : path.isAbsolute <;>
        simp [hstderr, hstdout, habsolute, not_ends_ok, not_ends_reject]

theorem ends_checkDestination_iff {value : Datum} :
    Ends (checkDestination homes value) ↔
      ∃ text, destinationText? value = some text ∧
        (Path.ofString text).expandHome homes = .error .unknownHome := by
  unfold checkDestination
  split
  · simp [destinationText?, ends_checkDestinationText_iff]
  · rename_i bytes
    rw [destinationText?]
    cases bytesText? bytes <;> simp [not_ends_reject, ends_checkDestinationText_iff]
  · rename_i hstr hbytes
    have hnone : destinationText? value = none := by
      unfold destinationText?
      split
      · exact absurd rfl (hstr _)
      · exact absurd rfl (hbytes _)
      · rfl
    simp [hnone, not_ends_reject]

theorem ends_checkOutput_iff {output : Datum} :
    Ends (checkOutput homes output) ↔
      ∃ text, outputText? output = some text ∧ (Path.ofString text).expandHome homes = .error .unknownHome := by
  have hends : Ends (checkOutput homes output) ↔
      ∃ entries, output.entries? = some entries ∧
        ∃ value, Entries.get? entries (.str "destination") = some value ∧
          Ends (checkDestination homes value) := by
    simp only [checkOutput, checkOutputEntries, ends_mapping_iff, ends_map_iff, ends_both_iff,
      ends_field_iff, not_ends_checkFormat, not_ends_checkOutputLevel, and_false, exists_false,
      false_or, or_false]
  rw [hends, outputText?]
  cases output.entries? with
  | none => simp
  | some entries =>
      cases hvalue : Entries.get? entries (.str "destination") <;>
        simp [hvalue, ends_checkDestination_iff]

theorem mem_destinationTexts_iff {settings : Entries} {text : String} :
    text ∈ destinationTexts settings ↔
      ∃ value, Setting.outputs.of? settings = some value ∧
        ∃ items, value.items? = some items ∧ ∃ output ∈ items, outputText? output = some text := by
  unfold destinationTexts
  cases Setting.outputs.of? settings with
  | none => simp
  | some value => cases hitems : value.items? <;> simp [hitems, List.mem_filterMap]

theorem ends_checkOutputs_iff {value : Datum} :
    Ends (checkOutputs homes value) ↔
      ∃ items, value.items? = some items ∧ ∃ output ∈ items, Ends (checkOutput homes output) := by
  unfold checkOutputs
  cases value.items? with
  | none => simp [not_ends_reject]
  | some items => simp [ends_itemsFrom_iff]

theorem field?_eq_some_iff {settings : Entries} {sectionName name : String} {value : Datum} :
    field? settings sectionName name = some value ↔
      ∃ whole, settings.get? (.str sectionName) = some whole ∧
        ∃ entries, whole.entries? = some entries ∧
          Entries.get? entries (.str name) = some value := by
  rw [field?, fields]
  cases settings.get? (.str sectionName) with
  | none => simp [Entries.get?]
  | some whole => cases hentries : whole.entries? <;> simp [hentries, Entries.get?]

/-- A check ends at once just when some output goes below a home directory that cannot be found. -/
theorem ends_check_iff {settings : Entries} :
    Ends (Config.check homes settings) ↔
      ∃ text ∈ destinationTexts settings, (Path.ofString text).expandHome homes = .error .unknownHome := by
  have hparse : ∀ value, ¬ Ends (checkParse value) := by
    simp [checkParse, ends_mapping_iff, ends_field_iff, not_ends_checkBoolean]
  have hdebug : ∀ value, ¬ Ends (checkDebug value) := by
    simp [checkDebug, ends_mapping_iff, ends_field_iff, not_ends_checkBoolean]
  have hoff : Ends (Config.check homes settings) ↔
      ∃ value, Setting.outputs.of? settings = some value ∧ Ends (checkOutputs homes value) := by
    simp only [Config.check, ends_map_iff, ends_both_iff, ends_field_iff, hparse, hdebug,
      not_ends_checkKeys, checkLogging, ends_mapping_iff, not_ends_checkLevel, and_false,
      exists_false, false_or, or_false, Setting.of?, Setting.sectionName, Setting.name,
      field?_eq_some_iff]
    constructor
    · rintro ⟨whole, hwhole, entries, hentries, value, hvalue, hends⟩
      exact ⟨value, ⟨whole, hwhole, entries, hentries, hvalue⟩, hends⟩
    · rintro ⟨value, ⟨whole, hwhole, entries, hentries, hvalue⟩, hends⟩
      exact ⟨whole, hwhole, entries, hentries, value, hvalue, hends⟩
  rw [hoff]
  simp only [ends_checkOutputs_iff, ends_checkOutput_iff, mem_destinationTexts_iff]
  constructor
  · rintro ⟨value, hvalue, items, hitems, output, houtput, text, htext, hpath⟩
    exact ⟨text, ⟨value, hvalue, items, hitems, output, houtput, htext⟩, hpath⟩
  · rintro ⟨text, ⟨value, hvalue, items, hitems, output, houtput, htext⟩, hpath⟩
    exact ⟨value, hvalue, items, hitems, output, houtput, text, htext, hpath⟩

end Config

end DeclGraph
