import DeclGraph.Proofs.Config.Precedence
import DeclGraph.Proofs.Config.UnknownHome

/-!
What comes out of loading besides configurations and faults of settings: what escapes, and from
which sources.
-/

namespace DeclGraph.Config

/-- What loading promises to report. -/
def LoadError.IsSettingsFault : LoadError → Prop
  | .fault cause => cause.code.number = 2001 ∨ cause.code.number = 2002 ∨ cause.code.number = 2004
  | _ => False

/-- Direct settings have names, each once, and none that stands for something else. -/
structure AreNamed (settings : Entries) : Prop where
  text : ∀ entry ∈ settings, isText entry.1
  distinct : settings.Distinct
  unreserved : settings.get? (.str reservedName) = none

/-- What escapes from loading. Later sources are not read when one escapes. -/
inductive Escape (accounts : List (String × String)) (file : SettingsFile)
    (vars : List (String × String)) (settings : Entries) : LoadError → Prop
  | nameTooLong {path missing : String} (hfile : file = .absent path missing)
      (hrefused : isLookupRefused path missing = true) :
      Escape accounts file vars settings .nameTooLong
  | badValue {path content : String} {problem : Yaml.Problem} (hfile : file = .text path content)
      (hread : Yaml.read content = .error problem) (hform : problem.isSyntactic = false) :
      Escape accounts file vars settings (.badValue problem)
  | undecodable {low : Datum} {problem : Undecodable} (hfile : fileDatum file = .ok low)
      (henvironment : variableEntries vars settings = .error problem) :
      Escape accounts file vars settings (.undecodable problem)
  | fileNotMapping {low : Datum} {environment : Entries} (hfile : fileDatum file = .ok low)
      (henvironment : variableEntries vars settings = .ok environment)
      (hentries : low.entries? = none)
      (hother : low.items? = none ∨ environment = [] ∧ directEntries settings = []) :
      Escape accounts file vars settings .fileNotMapping
  /-- A file that is a sequence, which other sources would override. -/
  | fileNotOverridable {low : Datum} {environment : Entries} (hfile : fileDatum file = .ok low)
      (henvironment : variableEntries vars settings = .ok environment)
      (hentries : low.entries? = none) (hitems : low.items? ≠ none)
      (hother : ¬ (environment = [] ∧ directEntries settings = [])) :
      Escape accounts file vars settings .fileNotOverridable
  | keyNotText {sources : Sources} (hread : sources.AreRead file vars settings)
      (hkey : ∃ entry ∈ sources .file, isText entry.1 = false) :
      Escape accounts file vars settings .keyNotText
  | unknownHome {sources : Sources} {text : String} (hread : sources.AreRead file vars settings)
      (hkeys : ∀ entry ∈ sources .file, isText entry.1)
      (hdestination : text ∈ destinationTexts sources.merged)
      (hhome : (Path.ofString text).expandHome (homes accounts vars) = .error .unknownHome) :
      Escape accounts file vars settings .unknownHome
  /-- The first invalid value holds a number that is too long to be reported. -/
  | unwritable {sources : Sources} {invalid : Invalid} (hread : sources.AreRead file vars settings)
      (hkeys : ∀ entry ∈ sources .file, isText entry.1)
      (hinvalid : Config.check (homes accounts vars) sources.merged = .error (.invalid invalid))
      (hvalue : invalid.value.isWritable = false) :
      Escape accounts file vars settings .unwritable

variable {accounts : List (String × String)} {file : SettingsFile} {vars : List (String × String)}
  {settings : Entries} {sources : Sources} {low : Datum} {environment : Entries} {e : LoadError}

/-! One source after the other -/

theorem load_of_fileDatum_error (hnamed : AreNamed settings) (h : fileDatum file = .error e) :
    load accounts file vars settings = .error e := by
  rw [load_eq_bind, hnamed.unreserved, h]
  rfl

theorem load_of_mergedEntries_error (hnamed : AreNamed settings) (hfile : fileDatum file = .ok low)
    (h : mergedEntries low vars settings = .error e) :
    load accounts file vars settings = .error e := by
  rw [load_eq_bind, hnamed.unreserved, hfile]
  show (mergedEntries low vars settings >>= _) = _
  rw [h]
  rfl

theorem load_of_undecodable (hnamed : AreNamed settings) (hfile : fileDatum file = .ok low)
    {problem : Undecodable} (h : variableEntries vars settings = .error problem) :
    load accounts file vars settings = .error (.undecodable problem) := by
  rw [variableEntries] at h
  apply load_of_mergedEntries_error hnamed hfile
  simp only [mergedEntries, h, Except.mapError]
  rfl

theorem load_of_entries?_eq_none (hnamed : AreNamed settings) (hfile : fileDatum file = .ok low)
    (henvironment : variableEntries vars settings = .ok environment)
    (hentries : low.entries? = none) :
    load accounts file vars settings =
      .error (if low.items? = none ∨ environment = [] ∧ directEntries settings = [] then
        .fileNotMapping else .fileNotOverridable) := by
  rw [variableEntries] at henvironment
  have hhigher : List.isEmpty (Datum.mergeEntries environment (directEntries settings)) =
      decide (environment = [] ∧ directEntries settings = []) := by
    rw [Bool.eq_iff_iff, List.isEmpty_iff, Datum.mergeEntries_eq_nil_iff, decide_eq_true_iff]
  have hoverride : overrideEntries low (Datum.mergeEntries environment (directEntries settings)) =
      .error (if low.items? = none ∨ environment = [] ∧ directEntries settings = [] then
        .fileNotMapping else .fileNotOverridable) := by
    rw [overrideEntries, hentries]
    cases low.items? with
    | none => simp
    | some items => simp [hhigher]
  apply load_of_mergedEntries_error hnamed hfile
  simp only [mergedEntries, henvironment, hoverride, bind, Except.bind, Except.mapError]

/-! Keys that are no text -/

theorem exists_str_of_isText (key : Scalar) (h : isText key = true) : ∃ name, key = .str name := by
  cases key with
  | str name => exact ⟨name, rfl⟩
  | _ => cases h

theorem isText_of_mem_variableEntries (h : variableEntries vars settings = .ok environment) :
    ∀ entry ∈ environment, isText entry.1 := by
  intro entry hentry
  obtain ⟨name, hname⟩ := exists_str_of_isSection entry.1
    (isSection_of_mem_environmentEntries h entry hentry)
  rw [hname]
  rfl

theorem AreNamed.isText_of_mem_directEntries (h : AreNamed settings) :
    ∀ entry ∈ directEntries settings, isText entry.1 := by
  intro entry hentry
  rcases List.mem_append.mp hentry with hentry | hentry
  · obtain ⟨name, -, hname⟩ := List.mem_filterMap.mp hentry
    obtain ⟨value, -, rfl⟩ := Option.map_eq_some_iff.mp hname
    rfl
  · exact h.text entry (List.mem_filter.mp hentry).1

/-- Only a file can have other keys than texts. -/
theorem Sources.AreRead.all_isText_merged_iff (hread : sources.AreRead file vars settings)
    (hnamed : AreNamed settings) :
    List.all sources.merged (fun entry => isText entry.1) ↔
      ∀ entry ∈ sources .file, isText entry.1 := by
  have henvironment := isText_of_mem_variableEntries hread.environment
  have hdirect := hnamed.isText_of_mem_directEntries
  rw [hread.direct] at hdirect
  have hmerge := @Datum.forall_mem_mergeEntries_iff isText fun _ _ =>
    Scalar.test_eq_of_sameKey exists_str_of_isText
  rw [List.all_eq_true, Sources.merged, hmerge, hmerge]
  exact ⟨fun h => h.1, fun h => ⟨h, henvironment, hdirect⟩⟩

/-! What escapes -/

theorem escape_of_fileDatum_error (hfile : file ≠ .directory) (h : fileDatum file = .error e)
    (hfault : ¬ e.IsSettingsFault) : Escape accounts file vars settings e := by
  cases file with
  | unasked => cases h
  | absent path missing =>
      cases hrefused : isLookupRefused path missing with
      | true =>
          rw [fileDatum, hrefused] at h
          cases h
          exact .nameTooLong rfl hrefused
      | false =>
          rw [fileDatum, hrefused] at h
          cases h
          exact absurd (.inr (.inr rfl)) hfault
  | directory => exact absurd rfl hfile
  | text path content =>
      cases hread : Yaml.read content with
      | ok value =>
          simp only [fileDatum, readSettings, hread] at h
          cases h
      | error problem =>
          simp only [fileDatum, readSettings, hread] at h
          split at h
          · cases h
            exact absurd (.inl rfl) hfault
          · rename_i hform
            cases h
            exact .badValue rfl hread (Bool.eq_false_iff.mpr hform)

theorem Sources.AreRead.outcome_merged (hread : sources.AreRead file vars settings)
    (hnamed : AreNamed settings) (homes : Homes) :
    outcome homes sources.merged =
      if ∀ entry ∈ sources .file, isText entry.1 then
        (Config.check homes sources.merged).mapError .ofRejection
      else .error .keyNotText :=
  if_congr (hread.all_isText_merged_iff hnamed) rfl rfl

theorem escape_of_outcome (hread : sources.AreRead file vars settings) (hnamed : AreNamed settings)
    (h : outcome (homes accounts vars) sources.merged = .error e)
    (hfault : ¬ e.IsSettingsFault) : Escape accounts file vars settings e := by
  rw [hread.outcome_merged hnamed] at h
  split at h
  · rename_i hkeys
    cases hcheck : Config.check (homes accounts vars) sources.merged with
    | ok config =>
        rw [hcheck] at h
        cases h
    | error rejection =>
        rw [hcheck] at h
        cases rejection with
        | unknownHome =>
            cases h
            obtain ⟨text, htext, hhome⟩ := ends_check_iff.mp hcheck
            exact .unknownHome hread hkeys htext hhome
        | invalid invalid =>
            have he : LoadError.ofInvalid invalid = e := Except.error.inj h
            subst he
            cases hvalue : invalid.value.isWritable with
            | true =>
                rw [LoadError.ofInvalid, hvalue] at hfault
                exact absurd (.inr (.inl rfl)) hfault
            | false =>
                rw [LoadError.ofInvalid, hvalue]
                exact .unwritable hread hkeys hcheck hvalue
  · rename_i hkeys
    cases h
    exact .keyNotText hread (by simpa using hkeys)

theorem Escape.load_eq (h : Escape accounts file vars settings e) (hnamed : AreNamed settings) :
    load accounts file vars settings = .error e := by
  cases h with
  | nameTooLong hpath hrefused =>
      subst hpath
      refine load_of_fileDatum_error hnamed ?_
      rw [fileDatum, hrefused]
      rfl
  | badValue hpath hread hform =>
      subst hpath
      refine load_of_fileDatum_error hnamed ?_
      simp only [fileDatum, readSettings, hread, hform]
      rfl
  | undecodable hlow henvironment => exact load_of_undecodable hnamed hlow henvironment
  | fileNotMapping hlow henvironment hentries hother =>
      rw [load_of_entries?_eq_none hnamed hlow henvironment hentries, if_pos hother]
  | fileNotOverridable hlow henvironment hentries hitems hother =>
      rw [load_of_entries?_eq_none hnamed hlow henvironment hentries,
        if_neg (not_or.mpr ⟨hitems, hother⟩)]
  | keyNotText hread hkey =>
      rw [hread.load_eq, hread.outcome_merged hnamed, if_neg (by simpa using hkey)]
  | unknownHome hread hkeys hdestination hhome =>
      have hends : Config.check _ _ = .error .unknownHome :=
        ends_check_iff.mpr ⟨_, hdestination, hhome⟩
      rw [hread.load_eq, hread.outcome_merged hnamed, if_pos hkeys, hends]
      rfl
  | unwritable hread hkeys hinvalid hvalue =>
      rw [hread.load_eq, hread.outcome_merged hnamed, if_pos hkeys, hinvalid]
      show Except.error (LoadError.ofInvalid _) = _
      rw [LoadError.ofInvalid, hvalue]
      rfl

theorem Escape.not_isSettingsFault (h : Escape accounts file vars settings e) :
    ¬ e.IsSettingsFault := by
  cases h <;> exact id

/-- A log file below the home directory of an account that does not exist. -/
def homeless : Entries :=
  [(.str "logging", .map [(.str "outputs", .list
    [.map [(.str "destination", .str "~nosuch_user_zz/x")]])])]

end DeclGraph.Config
