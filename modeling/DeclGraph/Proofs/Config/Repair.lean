import DeclGraph.Proofs.Config.Escape
import DeclGraph.Proofs.Config.Fits

/-!
Repairing settings: once a rejected value is replaced by one that passes, the next report is about a
later place, and what comes after a rejected value does not change the report.
-/

namespace DeclGraph.Config

open Checked Rejection

/-- Settings with another value at a location. -/
def putSetting (settings : Entries) (location : Location) (new : Datum) : Entries :=
  match location with
  | .key name :: location => settings.adjust (.str name) fun part => part.put location new
  | _ => settings

/-- Settings after one place has been repaired. An unknown key can only be left out. -/
inductive Repair (homes : Homes) (settings : Entries) : Location → Entries → Prop
  | replace {location : Location} {new : Datum} (h : FitsAt homes location new) :
      Repair homes settings location (putSetting settings location new)
  | remove {name : String} (h : name ∉ sections) :
      Repair homes settings [.key name] (settings.erase (.str name))

/-- One place of settings is checked before another: the sections as their form has it, then the
unknown keys in the order in which they are given. -/
inductive Precedes (settings : Entries) : Location → Location → Prop
  | inSections {first second : Location} (h : sectionsForm.Precedes first second) :
      Precedes settings first second
  | toUnknown {name unknown : String} {location : Location} (h : name ∈ sections)
      (hunknown : unknown ∉ sections) :
      Precedes settings (.key name :: location) [.key unknown]
  | given {first second : String} (hfirst : first ∉ sections) (hsecond : second ∉ sections)
      (h : (settings.map (·.1)).idxOf (.str first) < (settings.map (·.1)).idxOf (.str second)) :
      Precedes settings [.key first] [.key second]

/-- Settings agree at a place and at all places before it, which are the same in both. -/
structure AgreeThrough (settings other : Entries) (location : Location) : Prop where
  here : (Datum.map other).at? location = (Datum.map settings).at? location
  before : ∀ earlier, Precedes settings earlier location →
    (Datum.map other).at? earlier = (Datum.map settings).at? earlier
  order : ∀ earlier, Precedes other earlier location → Precedes settings earlier location

variable {homes : Homes} {settings other : Entries} {location : Location} {e : Invalid}

/-! The report -/

theorem isSection_str_iff {name : String} : isSection (.str name) = true ↔ name ∈ sections :=
  List.contains_iff_mem

theorem exists_config_iff : (∃ config, Config.check homes settings = .ok config) ↔
    sectionsForm.rejections homes (.map settings) = [] ∧ unknownKey? settings = none := by
  rw [← refusal?_eq_none_iff, refusal?_check, first_eq_none_iff, List.append_eq_nil_iff]
  cases unknownKey? settings <;> simp

theorem check_eq_invalid_iff : Config.check homes settings = .error (.invalid e) ↔
    unknownHome ∉ sectionsForm.rejections homes (.map settings) ∧
      ((∃ rest, sectionsForm.rejections homes (.map settings) = .invalid e :: rest) ∨
        sectionsForm.rejections homes (.map settings) = [] ∧ unknownKey? settings = some e) := by
  rw [← refusal?_eq_some_iff, refusal?_check, first_eq_invalid_iff]
  have hunknown : unknownHome ∉ (unknownKey? settings).toList.map .invalid := by
    simp
  rw [List.mem_append, or_iff_left hunknown]
  cases sectionsForm.rejections homes (.map settings) with
  | nil => cases unknownKey? settings <;> simp
  | cons rejection rest => simp

/-! Sections -/

/-- The sections are checked by what stands under their names. -/
theorem rejections_congr
    (h : ∀ name ∈ sections, settings.get? (.str name) = other.get? (.str name)) :
    sectionsForm.rejections homes (.map settings) = sectionsForm.rejections homes (.map other) := by
  rw [rejections_sections, rejections_sections, List.flatMap_map, List.flatMap_map]
  refine List.flatMap_congr fun name hname => ?_
  rw [Form.partRejections, Form.partRejections, Datum.part?_map_key, Datum.part?_map_key,
    h name hname]

theorem put_map_cons (name : String) (location : Location) (new : Datum) :
    (Datum.map settings).put (.key name :: location) new =
      .map (putSetting settings (.key name :: location) new) := rfl

/-! Unknown keys -/

section Unknown

variable {key : Scalar} {value : Datum}

theorem exists_name_of_unknownKey? (htext : ∀ entry ∈ settings, isText entry.1)
    (h : unknownKey? settings = some e) :
    ∃ name, name ∉ sections ∧ e = ⟨[.key name], e.value, .unknownKey⟩ ∧
      settings.find? (fun entry => !isSection entry.1) = some (.str name, e.value) := by
  obtain ⟨⟨key, value⟩, hfind, rfl⟩ := Option.map_eq_some_iff.mp h
  obtain ⟨name, rfl⟩ := exists_str_of_isText key (htext _ (List.mem_of_find?_eq_some hfind))
  refine ⟨name, ?_, rfl, hfind⟩
  rw [← isSection_str_iff]
  simpa using List.find?_some hfind

theorem get?_of_find? {name : String}
    (h : settings.find? (fun entry => !isSection entry.1) = some (.str name, value)) :
    settings.get? (.str name) = some value := by
  obtain ⟨hname, before, after, rfl, hbefore⟩ := List.find?_eq_some_iff_append.mp h
  have hnone : Entries.get? before (.str name) = none := by
    rw [Entries.get?_eq_none_iff]
    intro entry hentry hsame
    have hsection := hbefore entry hentry
    rw [Scalar.sameKey_str_iff.mp hsame, hname] at hsection
    cases hsection
  rw [Entries.get?, List.find?_append, Option.map_or, ← Entries.get?, hnone, Option.none_or,
    ← Entries.get?, Entries.get?_cons, if_pos (Scalar.sameKey_str_iff.mpr rfl)]

theorem idxOf_lt_of_find? {second : Scalar}
    (h : settings.find? (fun entry => !isSection entry.1) = some (key, value))
    (hsecond : isSection second = false) (hne : second ≠ key) :
    (settings.map (·.1)).idxOf key < (settings.map (·.1)).idxOf second := by
  obtain ⟨hkey, before, after, rfl, hbefore⟩ := List.find?_eq_some_iff_append.mp h
  have hnotMem : ∀ third : Scalar, isSection third = false → third ∉ before.map (·.1) := by
    intro third hthird hmem
    obtain ⟨entry, hentry, rfl⟩ := List.mem_map.mp hmem
    have hsection := hbefore entry hentry
    simp [hthird] at hsection
  have hfirst : isSection key = false := by simpa using hkey
  rw [List.map_append, List.map_cons, List.idxOf_append_of_notMem (hnotMem key hfirst),
    List.idxOf_append_of_notMem (hnotMem second hsecond), List.idxOf_cons_self,
    List.idxOf_cons_ne _ hne.symm]
  omega

theorem unknownKey?_putSetting {name : String} (hname : name ∈ sections) (location : Location)
    (new : Datum) :
    unknownKey? (putSetting settings (.key name :: location) new) = unknownKey? settings := by
  have hkeeps : ∀ other : Scalar, other.sameKey (.str name) → (!isSection other) = false := by
    intro other hother
    rw [Scalar.sameKey_str_iff.mp hother, isSection_str_iff.mpr hname]
    rfl
  rw [unknownKey?, unknownKey?, ← List.head?_filter, ← List.head?_filter, putSetting,
    @Entries.filter_adjust settings _ (fun key => !isSection key) _ hkeeps]

end Unknown

/-! Checks after a change -/

/-- What is reported is what stands at the reported location. -/
theorem at?_of_check (htext : ∀ entry ∈ settings, isText entry.1)
    (h : Config.check homes settings = .error (.invalid e)) :
    (Datum.map settings).at? e.location = some e.value := by
  rcases (check_eq_invalid_iff.mp h).2 with ⟨rest, hrest⟩ | ⟨-, hunknown⟩
  · exact Form.at?_of_rejections hrest
  · obtain ⟨name, -, he, hfind⟩ := exists_name_of_unknownKey? htext hunknown
    rw [he, Datum.at?_singleton, Datum.part?_map_key, get?_of_find? hfind]

/-- Without a home directory that cannot be found, a check passes or reports a place. -/
theorem passes_or_reports
    (hhome : unknownHome ∉ sectionsForm.rejections homes (.map settings)) :
    (∃ config, Config.check homes settings = .ok config) ∨
      ∃ later, Config.check homes settings = .error (.invalid later) ∧
        (.invalid later ∈ sectionsForm.rejections homes (.map settings) ∨
          unknownKey? settings = some later) := by
  cases hrejections : sectionsForm.rejections homes (.map settings) with
  | nil =>
      cases hunknown : unknownKey? settings with
      | none => exact .inl (exists_config_iff.mpr ⟨hrejections, hunknown⟩)
      | some later =>
          refine .inr ⟨later, check_eq_invalid_iff.mpr ⟨hhome, .inr ⟨hrejections, hunknown⟩⟩, ?_⟩
          exact .inr rfl
  | cons rejection rest =>
      cases rejection with
      | unknownHome =>
          rw [hrejections] at hhome
          exact absurd List.mem_cons_self hhome
      | invalid later =>
          refine .inr ⟨later, check_eq_invalid_iff.mpr ⟨hhome, .inl ⟨rest, hrejections⟩⟩, ?_⟩
          exact .inl List.mem_cons_self

theorem check_or_later_of_replace {new : Datum} (htext : ∀ entry ∈ settings, isText entry.1)
    (h : Config.check homes settings = .error (.invalid e)) (hnew : FitsAt homes e.location new) :
    (∃ config, Config.check homes (putSetting settings e.location new) = .ok config) ∨
      ∃ later, Config.check homes (putSetting settings e.location new) = .error (.invalid later) ∧
        Precedes settings e.location later.location := by
  obtain ⟨hhome, hreport⟩ := check_eq_invalid_iff.mp h
  obtain ⟨name, hname, inner, hlocation⟩ := hnew.exists_section
  obtain ⟨here, hhere, hpasses⟩ := hnew.exists_form
  rcases hreport with ⟨rest, hrest⟩ | ⟨-, hunknown⟩
  · have hput : sectionsForm.rejections homes (.map (putSetting settings e.location new)) =
        rest := by
      rw [hlocation, ← put_map_cons, ← hlocation]
      exact Form.rejections_put hrest hhere hpasses
    rw [hrest, List.mem_cons, not_or] at hhome
    have horder := Form.pairwise_rejections sectionsForm homes (.map settings)
    rw [hrest, List.pairwise_cons] at horder
    rw [← hput] at hhome horder
    refine (passes_or_reports hhome.2).imp_right ?_
    rintro ⟨later, hlater, hmem | hunknown⟩
    · exact ⟨later, hlater, .inSections (horder.1 _ hmem e later rfl rfl)⟩
    · rw [hlocation, unknownKey?_putSetting hname] at hunknown
      obtain ⟨unknown, hnotMem, he, -⟩ := exists_name_of_unknownKey? htext hunknown
      refine ⟨later, hlater, ?_⟩
      rw [hlocation, he]
      exact .toUnknown hname hnotMem
  · obtain ⟨unknown, hnotMem, he, -⟩ := exists_name_of_unknownKey? htext hunknown
    rw [he] at hlocation
    cases hlocation
    exact absurd hname hnotMem

/-- Without the first unknown key the next one is found, which comes later. -/
theorem precedes_of_unknownKey?_erase {name : String} {value : Datum} {later : Invalid}
    (htext : ∀ entry ∈ settings, isText entry.1) (hname : name ∉ sections)
    (hfind : settings.find? (fun entry => !isSection entry.1) = some (.str name, value))
    (hlater : unknownKey? (settings.erase (.str name)) = some later) :
    Precedes settings [.key name] later.location := by
  have hkept : ∀ entry ∈ settings.erase (.str name), isText entry.1 := by
    intro entry hentry
    exact htext entry (List.mem_filter.mp hentry).1
  obtain ⟨next, hnext, hlocation, hnextFind⟩ := exists_name_of_unknownKey? hkept hlater
  have hne : Scalar.str next ≠ .str name := by
    intro hsame
    have hmem := (List.mem_filter.mp (List.mem_of_find?_eq_some hnextFind)).2
    rw [hsame, Scalar.sameKey_str_iff.mpr rfl] at hmem
    cases hmem
  rw [hlocation]
  refine .given hname hnext (idxOf_lt_of_find? hfind ?_ hne)
  rw [← Bool.not_eq_true, isSection_str_iff]
  exact hnext

theorem check_or_later_of_remove {name : String} (htext : ∀ entry ∈ settings, isText entry.1)
    (h : Config.check homes settings = .error (.invalid e)) (hname : name ∉ sections)
    (hlocation : e.location = [.key name]) :
    (∃ config, Config.check homes (settings.erase (.str name)) = .ok config) ∨
      ∃ later, Config.check homes (settings.erase (.str name)) = .error (.invalid later) ∧
        Precedes settings e.location later.location := by
  obtain ⟨-, hreport⟩ := check_eq_invalid_iff.mp h
  rcases hreport with ⟨rest, hrest⟩ | ⟨hnil, hunknown⟩
  · obtain ⟨other, hother, _, _, _, -, hsection⟩ := exists_section_of_rejections hrest
    rw [hlocation] at hsection
    have hsame : name = other := Step.key.inj (List.cons.inj hsection).1
    exact absurd (hsame ▸ hother) hname
  · obtain ⟨unknown, -, he, hfind⟩ := exists_name_of_unknownKey? htext hunknown
    have hsame : unknown = name := by
      rw [he] at hlocation
      cases hlocation
      rfl
    subst hsame
    have hsections : sectionsForm.rejections homes (.map (settings.erase (.str unknown))) = [] := by
      rw [← hnil]
      apply rejections_congr
      intro other hother
      apply Entries.get?_erase
      rintro rfl
      exact hname hother
    refine (passes_or_reports (by simp [hsections])).imp_right ?_
    rintro ⟨later, hlater, hmem | hnext⟩
    · rw [hsections] at hmem
      cases hmem
    · refine ⟨later, hlater, ?_⟩
      rw [hlocation]
      exact precedes_of_unknownKey?_erase htext hname hfind hnext

/-- After a repair of what was reported, the settings pass, or a later place is reported. -/
theorem Repair.check_or_later {repaired : Entries} (htext : ∀ entry ∈ settings, isText entry.1)
    (h : Config.check homes settings = .error (.invalid e))
    (hrepair : Repair homes settings e.location repaired) :
    (∃ config, Config.check homes repaired = .ok config) ∨
      ∃ later, Config.check homes repaired = .error (.invalid later) ∧
        Precedes settings e.location later.location := by
  generalize hlocation : e.location = location at hrepair
  cases hrepair with
  | replace hnew =>
      subst hlocation
      exact check_or_later_of_replace htext h hnew
  | remove hname =>
      rw [← hlocation]
      exact check_or_later_of_remove htext h hname hlocation

theorem exists_repair (htext : ∀ entry ∈ settings, isText entry.1)
    (h : Config.check homes settings = .error (.invalid e)) :
    ∃ repaired, Repair homes settings e.location repaired := by
  rcases (check_eq_invalid_iff.mp h).2 with ⟨rest, hrest⟩ | ⟨-, hunknown⟩
  · obtain ⟨new, hnew⟩ := exists_fitsAt hrest
    exact ⟨_, .replace hnew⟩
  · obtain ⟨name, hname, he, -⟩ := exists_name_of_unknownKey? htext hunknown
    rw [he]
    exact ⟨_, .remove hname⟩

/-- A first unknown key comes before every other one. -/
theorem not_precedes_of_find? {first second : String} {value : Datum}
    (hfirst : settings.find? (fun entry => !isSection entry.1) = some (.str first, value))
    (hsecond : second ∉ sections) (hne : second ≠ first) :
    ¬ Precedes settings [.key second] [.key first] := by
  intro h
  cases h with
  | inSections h =>
      rcases h with h | ⟨-, h⟩
      · have hlength : sections.idxOf second < sections.length :=
          Nat.lt_of_lt_of_le h List.idxOf_le_length
        exact hsecond (List.idxOf_lt_length_iff.mp hlength)
      · generalize sectionForm (.key second) = form at h
        cases form <;> exact h
  | toUnknown hsection => exact hsecond hsection
  | given _ _ h =>
      have hlater := idxOf_lt_of_find? hfirst (by rwa [← Bool.not_eq_true, isSection_str_iff])
        (fun hsame => hne (Scalar.str.inj hsame))
      omega

theorem unknownKey?_ne_none {name : String} {value : Datum} (hname : name ∉ sections)
    (h : settings.get? (.str name) = some value) : unknownKey? settings ≠ none := by
  intro hnone
  have hall := List.find?_eq_none.mp (Option.map_eq_none_iff.mp hnone)
  obtain ⟨entry, hentry, -⟩ := Option.map_eq_some_iff.mp h
  have hkey := List.find?_some hentry
  have hsection := hall entry (List.mem_of_find?_eq_some hentry)
  rw [Scalar.sameKey_str_iff.mp hkey, Bool.not_eq_true, Bool.not_eq_false',
    isSection_str_iff] at hsection
  exact hname hsection

theorem AgreeThrough.unknownKey?_eq (h : AgreeThrough settings other e.location)
    (htext : ∀ entry ∈ settings, isText entry.1) (hotherText : ∀ entry ∈ other, isText entry.1)
    (hunknown : unknownKey? settings = some e) : unknownKey? other = some e := by
  obtain ⟨name, hname, he, hfind⟩ := exists_name_of_unknownKey? htext hunknown
  have hlocation : e.location = [.key name] := by rw [he]
  have hvalue : other.get? (.str name) = some e.value := by
    have hhere := h.here
    rw [hlocation, Datum.at?_singleton, Datum.at?_singleton] at hhere
    exact hhere.trans (get?_of_find? hfind)
  cases hother : unknownKey? other with
  | none => exact absurd hother (unknownKey?_ne_none hname hvalue)
  | some first =>
      obtain ⟨firstName, hfirstName, hfirst, hfindOther⟩ :=
        exists_name_of_unknownKey? hotherText hother
      by_cases hsame : firstName = name
      · subst hsame
        have hvalues : first.value = e.value :=
          Option.some.inj ((get?_of_find? hfindOther).symm.trans hvalue)
        rw [hfirst, hvalues, ← he]
      · -- a key that was not the first unknown one cannot have come to stand before it
        have hbefore : Precedes other [.key firstName] e.location := by
          rw [hlocation]
          refine .given hfirstName hname (idxOf_lt_of_find? hfindOther ?_ ?_)
          · rwa [← Bool.not_eq_true, isSection_str_iff]
          · intro hkeys
            exact hsame (Scalar.str.inj hkeys).symm
        have hagain := h.order _ hbefore
        rw [hlocation] at hagain
        exact absurd hagain (not_precedes_of_find? hfind hfirstName hsame)

/-- What comes after the reported place does not change the report. -/
theorem AgreeThrough.check_eq (h : AgreeThrough settings other e.location)
    (htext : ∀ entry ∈ settings, isText entry.1) (hotherText : ∀ entry ∈ other, isText entry.1)
    (hcheck : Config.check homes settings = .error (.invalid e))
    (hends : ¬ Ends (Config.check homes other)) :
    Config.check homes other = .error (.invalid e) := by
  have hhome : unknownHome ∉ sectionsForm.rejections homes (.map other) := by
    intro hmem
    apply hends
    rw [Ends, ← refusal?_eq_some_iff, refusal?_check, first,
      if_pos (List.mem_append_left _ hmem)]
  apply check_eq_invalid_iff.mpr
  refine ⟨hhome, ?_⟩
  rcases (check_eq_invalid_iff.mp hcheck).2 with ⟨rest, hrest⟩ | ⟨hnil, hunknown⟩
  · left
    apply Form.rejections_of_agree hrest h.here
    intro earlier hearlier
    exact h.before earlier (.inSections hearlier)
  · right
    refine ⟨?_, h.unknownKey?_eq htext hotherText hunknown⟩
    obtain ⟨name, hname, he, -⟩ := exists_name_of_unknownKey? htext hunknown
    have hlocation : e.location = [.key name] := by rw [he]
    rw [← hnil]
    apply rejections_congr
    intro each heach
    have hbefore := h.before [.key each] (by
      rw [hlocation]
      exact .toUnknown heach hname)
    rwa [Datum.at?_singleton, Datum.at?_singleton] at hbefore

end DeclGraph.Config
