import DeclGraph.Proofs.Config.Fields
import DeclGraph.Proofs.Config.Form

/-!
The forms of the sections, and the report of a check: it is the first of all that the form finds
wrong, and else the first key that is unknown.
-/

namespace DeclGraph

namespace Rejection

variable {rejections others : List Rejection} {step : Step}

theorem unknownHome_mem_map_under_iff :
    unknownHome ∈ rejections.map (under step) ↔ unknownHome ∈ rejections := by
  rw [List.mem_map]
  constructor
  · rintro ⟨rejection, hmem, hunder⟩
    cases rejection with
    | invalid e => cases hunder
    | unknownHome => exact hmem
  · intro hmem
    exact ⟨unknownHome, hmem, rfl⟩

theorem first_map_under : first (rejections.map (under step)) =
    (first rejections).map (under step) := by
  unfold first
  simp only [unknownHome_mem_map_under_iff, List.head?_map]
  split <;> rfl

theorem first_toList (rejection : Option Rejection) : first rejection.toList = rejection := by
  rcases rejection with _ | _ | _
  · rfl
  · simp [first]
  · simp [first]

theorem first_append : first (rejections ++ others) =
    Option.merge Checked.earlier (first rejections) (first others) := by
  cases rejections with
  | nil => exact Option.merge_none_left.symm
  | cons rejection rest =>
      cases others with
      | nil =>
          rw [List.append_nil]
          exact Option.merge_none_right.symm
      | cons other more =>
          by_cases hothers : unknownHome ∈ other :: more
          · have hall : unknownHome ∈ (rejection :: rest) ++ (other :: more) :=
              List.mem_append_right _ hothers
            rw [first, if_pos hall, first, first, if_pos hothers]
            split <;> rfl
          · have hother : ∃ e, other = invalid e := by
              cases other with
              | invalid e => exact ⟨e, rfl⟩
              | unknownHome => exact absurd List.mem_cons_self hothers
            obtain ⟨e, rfl⟩ := hother
            have hall : unknownHome ∈ (rejection :: rest) ++ (invalid e :: more) ↔
                unknownHome ∈ rejection :: rest := by
              rw [List.mem_append, or_iff_left hothers]
            simp only [first, hall, hothers, if_false]
            split <;> rfl

end Rejection

namespace Checked

open Rejection

variable {α β : Type} {x : Checked α} {y : Checked β} {rejections others : List Rejection}

theorem refusal?_both (hx : refusal? x = first rejections) (hy : refusal? y = first others) :
    refusal? (both x y) = first (rejections ++ others) := by
  have hboth : refusal? (both x y) = Option.merge earlier (refusal? x) (refusal? y) := by
    cases x <;> cases y <;> rfl
  rw [hboth, hx, hy, first_append]

theorem refusal?_under (step : Step) (h : refusal? x = first rejections) :
    refusal? (under step x) = first (rejections.map (.under step)) := by
  have hunder : refusal? (under step x) = (refusal? x).map (.under step) := by
    rcases x with (_ | _) | _ <;> rfl
  rw [hunder, h, first_map_under]

/-- The report of a check, given all that is wrong with each part. -/
theorem refusal?_field {d : Datum} {entries : Entries} (key : String) (default : α)
    {check : Datum → Checked α} {wrong : Datum → List Rejection}
    (hentries : d.entries? = some entries)
    (h : ∀ part, refusal? (check part) = first (wrong part)) :
    refusal? (field entries key default check) =
      first ((d.part? (.key key)).elim [] fun part => (wrong part).map (.under (.key key))) := by
  rw [field, Datum.part?, hentries, Option.bind_some]
  cases entries.get? (.str key) with
  | none => rfl
  | some part => exact refusal?_under _ (h part)

theorem refusal?_itemsFrom {check : Datum → Checked α} {wrong : Datum → List Rejection}
    (h : ∀ part, refusal? (check part) = first (wrong part)) (start : Nat) (items : List Datum) :
    refusal? (itemsFrom check start items) =
      first ((List.range items.length).flatMap fun i =>
        items[i]?.elim [] fun item => (wrong item).map (.under (.index (start + i)))) := by
  induction items generalizing start with
  | nil => rfl
  | cons item items ih =>
      have hboth := refusal?_both (refusal?_under (.index start) (h item)) (ih (start + 1))
      rw [itemsFrom, List.length_cons, List.range_succ_eq_map, List.flatMap_cons, List.flatMap_map]
      simp only [Nat.add_assoc, Nat.add_comm 1] at hboth
      exact (refusal?_map _ _).trans hboth

end Checked

namespace Config

open Checked Rejection

variable {homes : Homes}

/-! The sections -/

def outputForm : Form :=
  .parts (.mapping "LogOutputConfig" ["format", "destination", "level"] (by decide)) fun
    | .key "format" => .value .format
    | .key "destination" => .value .destination
    | _ => .value .outputLevel

def loggingForm : Form :=
  .parts (.mapping "LoggingConfig" ["level", "outputs"] (by decide)) fun
    | .key "outputs" => .parts .list fun _ => outputForm
    | _ => .value .level

/-- A section with one flag. -/
def flagForm (name key : String) : Form :=
  .parts (.mapping name [key] (List.pairwise_singleton _ key)) fun _ => .value .flag

def sectionForm : Step → Form
  | .key "logging" => loggingForm
  | .key "parse" => flagForm "ParseConfig" "strict"
  | _ => flagForm "DebugConfig" "dump_parsed"

def sectionsForm : Form := .parts (.mapping "HieGraphConfig" sections (by decide)) sectionForm

theorem refusal?_leaf {leaf : Leaf} (d : Datum) :
    leaf.check? homes d = first ((Form.value leaf).rejections homes d) := by
  rw [Form.rejections, first_toList]

theorem refusal?_mapping {α : Type} {name : String} {keys : List String} {nodup : keys.Nodup}
    {form : Step → Form} {check : Entries → Checked α} {d : Datum}
    (h : ∀ entries, d.entries? = some entries →
      refusal? (check entries) =
        first ((keys.map Step.key).flatMap (Form.partRejections homes form d))) :
    refusal? (mapping name check d) =
      first ((Form.parts (.mapping name keys nodup) form).rejections homes d) := by
  rw [mapping]
  cases hentries : d.entries? with
  | none =>
      have hsteps : (Container.mapping name keys nodup).steps? d = none := by
        rw [Container.steps?, hentries]
        rfl
      rw [Form.rejections_mismatch hsteps]
      rfl
  | some entries =>
      have hsteps : (Container.mapping name keys nodup).steps? d = some (keys.map .key) := by
        rw [Container.steps?, hentries]
        rfl
      rw [Form.rejections_parts hsteps]
      exact h entries hentries

theorem refusal?_checkOutput (d : Datum) :
    refusal? (checkOutput homes d) = first (outputForm.rejections homes d) := by
  apply refusal?_mapping
  intro entries hentries
  have hformat := refusal?_field "format" LogFormat.console hentries
    fun part => @refusal?_leaf homes .format part
  have hdestination := refusal?_field "destination" Destination.stderr hentries
    fun part => @refusal?_leaf homes .destination part
  have hlevel := refusal?_field "level" (none : Option LogLevel) hentries
    fun part => @refusal?_leaf homes .outputLevel part
  simp only [List.map_cons, List.map_nil, List.flatMap_cons, List.flatMap_nil, List.append_nil]
  exact (refusal?_map _ _).trans (refusal?_both hformat (refusal?_both hdestination hlevel))

theorem refusal?_checkOutputs (d : Datum) :
    refusal? (checkOutputs homes d) =
      first ((Form.parts .list fun _ => outputForm).rejections homes d) := by
  rw [checkOutputs]
  cases hitems : d.items? with
  | none =>
      have hsteps : Container.list.steps? d = none := by
        rw [Container.steps?, hitems]
        rfl
      rw [Form.rejections_mismatch hsteps]
      rfl
  | some items =>
      have hsteps : Container.list.steps? d = some ((List.range items.length).map .index) := by
        rw [Container.steps?, hitems]
        rfl
      have hparts : ∀ i, Form.partRejections homes (fun _ => outputForm) d (.index i) =
          items[i]?.elim [] fun item =>
            (outputForm.rejections homes item).map (.under (.index (0 + i))) := by
        intro i
        rw [Form.partRejections, Datum.part?, hitems, Option.bind_some, Nat.zero_add]
      rw [Form.rejections_parts hsteps, List.flatMap_map]
      simp only [hparts]
      exact refusal?_itemsFrom refusal?_checkOutput 0 items

theorem refusal?_checkLogging (d : Datum) :
    refusal? (checkLogging homes d) = first (loggingForm.rejections homes d) := by
  apply refusal?_mapping
  intro entries hentries
  have hlevel := refusal?_field "level" LogLevel.info hentries
    fun part => @refusal?_leaf homes .level part
  have houtputs := refusal?_field "outputs" [LogOutput.default] hentries
    (@refusal?_checkOutputs homes)
  simp only [List.map_cons, List.map_nil, List.flatMap_cons, List.flatMap_nil, List.append_nil]
  exact (refusal?_map _ _).trans (refusal?_both hlevel houtputs)

theorem refusal?_flag {name key : String} (d : Datum) :
    refusal? (mapping name (fun entries => field entries key false checkBoolean) d) =
      first ((flagForm name key).rejections homes d) := by
  apply refusal?_mapping
  intro entries hentries
  simp only [List.map_cons, List.map_nil, List.flatMap_cons, List.flatMap_nil, List.append_nil]
  exact refusal?_field key false hentries fun part => @refusal?_leaf homes .flag part

/-! Whole settings -/

/-- The first key that is unknown. -/
def unknownKey? (settings : Entries) : Option Invalid :=
  (settings.find? fun entry => !isSection entry.1).map fun entry =>
    ⟨[match entry.1 with
      | .str name => .key name
      | _ => .key ""], entry.2, .unknownKey⟩

theorem refusal?_checkKeys (settings : Entries) :
    refusal? (checkKeys settings) = first ((unknownKey? settings).toList.map .invalid) := by
  induction settings with
  | nil => rfl
  | cons entry settings ih =>
      obtain ⟨key, value⟩ := entry
      rw [checkKeys.eq_def, unknownKey?, List.find?_cons]
      dsimp only
      cases hkey : isSection key with
      | true => exact ih
      | false => cases key <;> rfl

theorem rejections_sections (settings : Entries) :
    sectionsForm.rejections homes (.map settings) =
      (sections.map Step.key).flatMap (Form.partRejections homes sectionForm (.map settings)) :=
  Form.rejections_parts rfl

/-- The report of a check. -/
theorem refusal?_check (settings : Entries) :
    refusal? (Config.check homes settings) =
      first (sectionsForm.rejections homes (.map settings) ++
        (unknownKey? settings).toList.map .invalid) := by
  have hentries : (Datum.map settings).entries? = some settings := rfl
  have hlogging := refusal?_field "logging" LogConfig.default hentries
    (@refusal?_checkLogging homes)
  have hparse := refusal?_field "parse" false hentries
    fun part => @refusal?_flag homes "ParseConfig" "strict" part
  have hdebug := refusal?_field "debug" false hentries
    fun part => @refusal?_flag homes "DebugConfig" "dump_parsed" part
  rw [rejections_sections]
  simp only [sections, List.map_cons, List.map_nil, List.flatMap_cons, List.flatMap_nil,
    List.append_nil, List.append_assoc]
  exact (refusal?_map _ _).trans
    (refusal?_both hlogging (refusal?_both hparse (refusal?_both hdebug (refusal?_checkKeys _))))

end Config

end DeclGraph
