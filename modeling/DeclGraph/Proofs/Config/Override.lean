import DeclGraph.Proofs.Config.Precedence

/-!
A configuration that was loaded, written out and given as direct settings: it is loaded again as it
is, whatever the file, the variables and the home directories say by then.
-/

namespace DeclGraph

namespace Datum

/-- A mapping keeps its values when it overrides another value, except for mappings among them. What
it overrides need not be a mapping at all. -/
theorem exists_merge_map {high : Entries} (hhigh : high.Distinct) (low : Datum) :
    ∃ whole : Entries, merge low (.map high) = .map whole ∧
      ((∀ lower : Entries, low.entries? = some lower → lower.Distinct) → whole.Distinct) ∧
      ∀ name value, high.get? (.str name) = some value → value.entries? = none →
        whole.get? (.str name) = some value := by
  cases hlow : low.entries? with
  | none =>
    refine ⟨high, ?_, fun _ => hhigh, fun _ _ hvalue _ => hvalue⟩
    rw [merge, hlow]
  | some lower =>
    refine ⟨mergeEntries lower high, merge_map hlow, ?_, ?_⟩
    · intro hdistinct
      exact distinct_mergeEntries (hdistinct lower rfl) high
    · intro name value hvalue hplain
      rw [get?_mergeEntries hhigh, hvalue]
      cases hold : Entries.get? lower (.str name) with
      | none => rfl
      | some old => rw [Option.merge_some_some, merge_of_entries?_eq_none hplain]

end Datum

namespace Config

variable {accounts : List (String × String)} {file : SettingsFile} {vars : List (String × String)}
  {settings : Entries} {config : Config}

theorem directEntries_toEntries (config : Config) :
    directEntries config.toEntries = config.toEntries := by
  rfl

/-- Entries with these names each have a key of their own. -/
theorem distinct_of_names (names : List String) (hnames : names.Nodup) {entries : Entries}
    (hentries : entries.map (·.1) = names.map .str) : entries.Distinct := by
  rw [Entries.Distinct, hentries, List.pairwise_map]
  refine hnames.imp ?_
  intro first second hne hsame
  exact hne (Scalar.str.inj (Scalar.sameKey_str_iff.mp hsame))

theorem distinct_toEntries (config : Config) : config.toEntries.Distinct :=
  distinct_of_names sections (by decide) rfl

theorem ofSettings_toEntries (config : Config) :
    VariableForm.ofSettings config.toEntries = .default := by
  rfl

/-- Each section is written out, with each of its fields once. -/
theorem exists_section_toEntries (config : Config) (setting : Setting) :
    ∃ given : Entries,
      config.toEntries.get? (.str setting.sectionName) = some (.map given) ∧ given.Distinct ∧
        given.get? (.str setting.name) = some (setting.toDatum config) := by
  have hdistinct (given : Entries)
      (hnames : given.map (·.1) = (fieldNames setting.sectionName).map .str) : given.Distinct :=
    distinct_of_names _ (by cases setting <;> decide) hnames
  cases setting <;> exact ⟨_, rfl, hdistinct _ rfl, rfl⟩

theorem Setting.entries?_toDatum (config : Config) (setting : Setting) :
    (setting.toDatum config).entries? = none := by
  cases setting <;> rfl

/-- Whatever lower sources have for a section, a field that is set directly keeps its value. -/
theorem of?_merged_toEntries {sources : Sources}
    (hread : sources.AreRead file vars config.toEntries) (setting : Setting) :
    setting.of? sources.merged = some (setting.toDatum config) := by
  obtain ⟨given, hgiven, hdistinct, hvalue⟩ := exists_section_toEntries config setting
  have hdirect : (sources .direct).get? (.str setting.sectionName) = some (.map given) := by
    rw [← hread.direct, directEntries_toEntries, hgiven]
  have hplain := setting.entries?_toDatum config
  -- what variables and direct settings make of the section
  have hupper : ∃ upper : Entries, Option.merge Datum.merge
      ((sources .environment).get? (.str setting.sectionName)) (some (.map given)) =
        some (.map upper) ∧ upper.Distinct ∧
          upper.get? (.str setting.name) = some (setting.toDatum config) := by
    cases henvironment : (sources .environment).get? (.str setting.sectionName) with
    | none => exact ⟨given, rfl, hdistinct, hvalue⟩
    | some value =>
      obtain ⟨whole, hwhole, hwholeDistinct, hkeeps⟩ := Datum.exists_merge_map hdistinct value
      refine ⟨whole, ?_, ?_, hkeeps _ _ hvalue hplain⟩
      · rw [Option.merge_some_some, hwhole]
      · apply hwholeDistinct
        intro lower hlower
        exact hread.tidy.inner setting.sectionName value lower henvironment hlower
  obtain ⟨upper, hmerged, hupperDistinct, hupperValue⟩ := hupper
  have hsection : ∃ whole : Entries,
      sources.merged.get? (.str setting.sectionName) = some (.map whole) ∧
        whole.get? (.str setting.name) = some (setting.toDatum config) := by
    rw [hread.get?_merged, hdirect, hmerged]
    cases (sources .file).get? (.str setting.sectionName) with
    | none => exact ⟨upper, rfl, hupperValue⟩
    | some value =>
      obtain ⟨whole, hwhole, -, hkeeps⟩ := Datum.exists_merge_map hupperDistinct value
      refine ⟨whole, ?_, hkeeps _ _ hupperValue hplain⟩
      rw [Option.merge_some_some, hwhole]
  obtain ⟨whole, hwhole, hfield⟩ := hsection
  rw [Setting.of?, field?, fields_of_get? hwhole rfl]
  exact hfield

/-- A file and variables that can be read, the file with no other keys than sections. -/
structure Background (file : SettingsFile) (vars : List (String × String)) : Prop where
  file : ∃ value entries, fileDatum file = .ok value ∧ value.entries? = some entries ∧
    ∀ entry ∈ entries, isSection entry.1
  environment : ∃ environment,
    environmentEntries .default ((Environment.ofList vars).fold .default) = .ok environment

theorem Background.exists_areRead (h : Background file vars) (config : Config) :
    ∃ sources : Sources, sources.AreRead file vars config.toEntries ∧
      ∀ entry ∈ sources .file, isSection entry.1 := by
  obtain ⟨value, entries, hvalue, hentries, hkeys⟩ := h.file
  obtain ⟨environment, henvironment⟩ := h.environment
  refine ⟨Sources.of entries environment config.toEntries, ?_, hkeys⟩
  refine ⟨⟨value, hvalue, hentries⟩, ?_, directEntries_toEntries config, distinct_toEntries config,
    rfl⟩
  rw [variableEntries, ofSettings_toEntries]
  exact henvironment

theorem isSection_of_mem_merged {sources : Sources}
    (hread : sources.AreRead file vars config.toEntries)
    (hkeys : ∀ entry ∈ sources .file, isSection entry.1) :
    ∀ entry ∈ sources.merged, isSection entry.1 := by
  have hdirect : ∀ entry ∈ sources .direct, isSection entry.1 := by
    rw [← hread.direct, directEntries_toEntries]
    exact isSection_of_mem_toEntries config
  have hmerge := @Datum.forall_mem_mergeEntries_iff isSection fun _ _ =>
    Scalar.test_eq_of_sameKey exists_str_of_isSection
  rw [Sources.merged, hmerge, hmerge]
  exact ⟨hkeys, isSection_of_mem_environmentEntries hread.environment, hdirect⟩

/-- A settled configuration that is given directly is what is loaded. -/
theorem IsSettled.load_toEntries (h : config.IsSettled) (hbackground : Background file vars)
    (accounts : List (String × String)) :
    load accounts file vars config.toEntries = .ok config := by
  obtain ⟨sources, hread, hkeys⟩ := hbackground.exists_areRead config
  have hsections := isSection_of_mem_merged hread hkeys
  have htext : List.all sources.merged (fun entry => isText entry.1) = true := by
    rw [List.all_eq_true]
    intro entry hentry
    obtain ⟨name, hname⟩ := exists_str_of_isSection entry.1 (hsections entry hentry)
    rw [hname]
    rfl
  have hcheck : Config.check (homes accounts vars) sources.merged = .ok config := by
    apply check_of_fields hsections
    intro setting
    exact ⟨setting.toDatum config, of?_merged_toEntries hread setting, setting.check_toDatum h⟩
  rw [hread.load_eq, outcome, if_pos htext, hcheck]
  rfl

theorem isSettled_of_load (h : load accounts file vars settings = .ok config) :
    config.IsSettled := by
  rw [load_eq_bind] at h
  split at h
  · cases h
  obtain ⟨low, -, h⟩ := bind_eq_ok_iff.mp h
  obtain ⟨merged, -, h⟩ := bind_eq_ok_iff.mp h
  exact isSettled_of_check (mapError_eq_ok_iff.mp h)

/-! Errors of the second check -/

/-- The second check is not what fails. -/
def FailsBefore {α : Type} (x : Except LoadError α) : Prop :=
  ∀ invalid, x ≠ .error (.unsettled invalid)

theorem FailsBefore.bind {α β : Type} {x : Except LoadError α} {f : α → Except LoadError β}
    (hx : FailsBefore x) (hf : ∀ a, FailsBefore (f a)) : FailsBefore (x >>= f) := by
  intro invalid h
  cases x with
  | error e =>
    obtain rfl : e = .unsettled invalid := Except.error.inj h
    exact hx invalid rfl
  | ok a => exact hf a invalid h

theorem failsBefore_mapError {ε α : Type} {f : ε → LoadError}
    (hf : ∀ e invalid, f e ≠ .unsettled invalid) (x : Except ε α) :
    FailsBefore (x.mapError f) := by
  intro invalid h
  cases x with
  | error e => exact hf e invalid (Except.error.inj h)
  | ok a => cases h

theorem failsBefore_fileDatum (file : SettingsFile) : FailsBefore (fileDatum file) := by
  intro invalid h
  cases file with
  | unasked | directory => cases h
  | absent path missing =>
    rw [fileDatum] at h
    split at h <;> cases h
  | text path content =>
    rw [fileDatum, readSettings] at h
    split at h
    · cases h
    · have hcause := Except.error.inj h
      split at hcause <;> cases hcause

theorem failsBefore_mergedEntries (low : Datum) :
    FailsBefore (mergedEntries low vars settings) := by
  unfold mergedEntries
  apply FailsBefore.bind
  · apply failsBefore_mapError
    intro e invalid
    exact nofun
  · intro environment
    apply FailsBefore.bind
    · intro invalid h
      unfold overrideEntries at h
      split at h
      · cases h
      · have hcause := Except.error.inj h
        split at hcause <;> cases hcause
      · cases h
    · intro merged invalid h
      split at h <;> cases h

theorem ofRejection_ne_unsettled (rejection : Rejection) (invalid : Invalid) :
    LoadError.ofRejection rejection ≠ .unsettled invalid := by
  cases rejection with
  | unknownHome => exact nofun
  | invalid e =>
    intro h
    rw [LoadError.ofRejection, LoadError.ofInvalid] at h
    split at h <;> cases h

theorem failsBefore_load : FailsBefore (load accounts file vars settings) := by
  rw [load_eq_bind]
  split
  · intro invalid
    exact nofun
  · apply (failsBefore_fileDatum file).bind
    intro low
    apply (failsBefore_mergedEntries low).bind
    intro merged
    exact failsBefore_mapError ofRejection_ne_unsettled _

/-- A loaded configuration is settled: given as direct settings it overrides everything else and is
loaded as it is. A second check never fails and changes nothing, and each destination is read from
its own text. -/
theorem load_settles (hload : load accounts file vars settings = .ok config) :
    (∀ accounts' file' vars', Background file' vars' →
      load accounts' file' vars' config.toEntries = .ok config) ∧
    (∀ homes homes' settings' config', Config.check homes settings' = .ok config' →
      Config.check homes' config'.toEntries = .ok config') ∧
    (∀ accounts' file' vars' settings' invalid,
      load accounts' file' vars' settings' ≠ .error (.unsettled invalid)) ∧
    ∀ output ∈ config.logging.outputs,
      (output.destination = .stderr ∨ output.destination = .stdout ∨
        ∃ path, output.destination = .file path ∧ (Path.ofString path).isAbsolute = true) ∧
      ∀ homes, Destination.ofText homes output.destination.text = .ok output.destination := by
  have hsettled := isSettled_of_load hload
  refine ⟨?_, ?_, ?_, ?_⟩
  · intro accounts' file' vars' hbackground
    exact hsettled.load_toEntries hbackground accounts'
  · intro homes homes' settings' config' hcheck
    exact (isSettled_of_check hcheck).check_toEntries homes'
  · intro accounts' file' vars' settings'
    exact failsBefore_load
  · intro output houtput
    have hdestination := hsettled output houtput
    exact ⟨hdestination.isAbsolute, hdestination.ofText_text⟩

/-- A log file below a home directory, in a batch that is strict. -/
def homely : Config :=
  ⟨⟨.info, [⟨.console, .file "/home/hs/a.log", none⟩]⟩, true, false⟩

theorem load_settles_homely :
    load [] (.text "home.yaml" "logging: {outputs: [{destination: ~//./a.log, level: null}]}")
        [("HOME", "/home/hs/"), ("HIEGRAPH__PARSE__STRICT", "on")] [] = .ok homely ∧
      Background (.text "other.yaml" "logging: {level: 7, outputs: none}\nparse: [1]")
        [("HIEGRAPH__LOGGING__LEVEL", "loud")] ∧
      load [] (.text "other.yaml" "logging: {level: 7, outputs: none}\nparse: [1]")
        [("HIEGRAPH__LOGGING__LEVEL", "loud")] homely.toEntries = .ok homely := by
  have hload : load [] (.text "home.yaml"
      "logging: {outputs: [{destination: ~//./a.log, level: null}]}")
        [("HOME", "/home/hs/"), ("HIEGRAPH__PARSE__STRICT", "on")] [] = .ok homely := by
    decide +kernel
  have hbackground : Background (.text "other.yaml"
      "logging: {level: 7, outputs: none}\nparse: [1]") [("HIEGRAPH__LOGGING__LEVEL", "loud")] :=
    { file := ⟨.map [(.str "logging", .map [(.str "level", .int 7), (.str "outputs", .str "none")]),
        (.str "parse", .list [.int 1])], _, by decide +kernel, rfl, by decide⟩
      environment := ⟨[(.str "logging", .map [(.str "level", .str "loud")])], by decide +kernel⟩ }
  exact ⟨hload, hbackground, (load_settles hload).1 [] _ _ hbackground⟩

end Config

end DeclGraph
