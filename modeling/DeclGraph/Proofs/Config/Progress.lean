import Mathlib.Algebra.GroupWithZero.Nat
import DeclGraph.Proofs.Config.Repair

/-!
Loading settings that have been repaired, whichever sources they come from.
-/

namespace DeclGraph.Config

open Checked

section Outcome

variable {homes : Homes} {settings : Entries} {location : Location}

theorem Repair.isText {repaired : Entries} (h : Repair homes settings location repaired)
    (htext : ∀ entry ∈ settings, isText entry.1) : ∀ entry ∈ repaired, isText entry.1 := by
  cases h with
  | @replace _ new hnew =>
      obtain ⟨name, -, inner, rfl⟩ := hnew.exists_section
      intro entry hentry
      obtain ⟨old, hold, rfl⟩ := List.mem_map.mp hentry
      have hkey := @Entries.fst_adjust (fun part => part.put inner new) (.str name) old
      rw [hkey]
      exact htext old hold
  | remove hname =>
      intro entry hentry
      exact htext entry (List.mem_filter.mp hentry).1

theorem outcome_of_isText (homes : Homes) (htext : ∀ entry ∈ settings, isText entry.1) :
    outcome homes settings = (Config.check homes settings).mapError .ofRejection := by
  rw [outcome, if_pos (List.all_eq_true.mpr htext)]

theorem outcome_eq_fault {cause : FaultCause}
    (h : outcome homes settings = .error (.fault cause)) :
    (∀ entry ∈ settings, isText entry.1) ∧
      ∃ e, Config.check homes settings = .error (.invalid e) ∧
        LoadError.ofInvalid e = .fault cause ∧
        cause = .invalidSetting e.location.text e.value e.reason.message := by
  rw [outcome] at h
  split at h
  · next htext =>
    refine ⟨List.all_eq_true.mp htext, ?_⟩
    cases hcheck : Config.check homes settings with
    | ok config =>
        rw [hcheck] at h
        cases h
    | error rejection =>
        rw [hcheck] at h
        cases rejection with
        | unknownHome => cases h
        | invalid e =>
            have hcause : LoadError.ofInvalid e = .fault cause := Except.error.inj h
            refine ⟨e, rfl, hcause, ?_⟩
            rw [LoadError.ofInvalid] at hcause
            split at hcause
            · exact (LoadError.fault.inj hcause).symm
            · cases hcause
  · cases h

end Outcome

/-- What can be done about a rejected place of merged settings, and what does not touch it. -/
structure Progress (accounts : List (String × String)) (vars : List (String × String))
    (merged : Entries) (location : Location) (value : Datum) (report : LoadError) : Prop where
  value_eq : (Datum.map merged).at? location = some value
  repairable : ∃ repaired, Repair (homes accounts vars) merged location repaired
  /-- The next report, if there is one, is about a later place. -/
  repaired : ∀ repaired, Repair (homes accounts vars) merged location repaired →
    (∃ config, outcome (homes accounts vars) repaired = .ok config) ∨
      ∃ later, outcome (homes accounts vars) repaired = .error (.ofInvalid later) ∧
        Precedes merged location later.location
  unchanged : ∀ other, AgreeThrough merged other location → (∀ entry ∈ other, isText entry.1) →
    (∀ text ∈ destinationTexts other,
      (Path.ofString text).expandHome (homes accounts vars) ≠ .error .unknownHome) →
    outcome (homes accounts vars) other = .error report
  /-- Whichever sources come to the changed settings, this is how they are loaded. -/
  loads : ∀ file' vars' settings' (sources' : Sources), sources'.AreRead file' vars' settings' →
    homes accounts vars' = homes accounts vars →
    load accounts file' vars' settings' = outcome (homes accounts vars) sources'.merged

section Load

variable {accounts : List (String × String)} {file : SettingsFile} {vars : List (String × String)}
  {settings : Entries} {sources : Sources} {cause : FaultCause}

end Load

/-- A level that is none, two outputs that are wrong, and an unknown key. -/
def faulty : Entries :=
  [(.str "logging", .map [(.str "level", .str "LOUD"), (.str "outputs", .list
      [.map [(.str "format", .str "json")], .map [(.str "format", .str "xml")], .int 3])]),
    (.str "extra", .null)]

theorem isWritable_int_iff {n : Int} :
    (Datum.int n).isWritable = true ↔ n.natAbs < 10 ^ Text.digitLimit := by
  show decide ((toString n.natAbs).length ≤ Text.digitLimit) = true ↔ _
  rw [decide_eq_true_iff, Nat.toString_eq_ofList_toDigits, String.length_ofList]
  exact Nat.length_toDigits_le_iff (by decide) (by decide)

/-- A level, and a flag that is a number with too many digits to be written. -/
def overlong (level : String) : Entries :=
  [(.str "logging", .map [(.str "level", .str level)]),
    (.str "parse", .map [(.str "strict", .int (Int.ofNat (10 ^ Text.digitLimit)))])]

end DeclGraph.Config
