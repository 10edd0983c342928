import DeclGraph.Proofs.Config.Settled

/-!
Precedence, field by field: the highest source that has a field decides what is loaded for it, and
what lower sources say of the field is not heard at all.
-/

namespace DeclGraph.Config

/-- Where settings come from. -/
inductive Source where
  | file
  | environment
  | direct
deriving DecidableEq, Repr

/-- Higher sources override lower ones. -/
def Source.rank : Source → Nat
  | file => 0
  | environment => 1
  | direct => 2

/-- The entries that each source supplies. -/
abbrev Sources := Source → Entries

def homes (accounts : List (String × String)) (vars : List (String × String)) : Homes :=
  ⟨vars.reverse.lookup "HOME", accounts⟩

/-- The entries that variables supply, in the form that direct settings ask for. -/
def variableEntries (vars : List (String × String)) (settings : Entries) :
    Except Undecodable Entries :=
  environmentEntries (.ofSettings settings)
    ((Environment.ofList vars).fold (.ofSettings settings))

namespace Sources

def of (file environment direct : Entries) : Sources
  | .file => file
  | .environment => environment
  | .direct => direct

def merged (sources : Sources) : Entries :=
  Datum.mergeEntries (sources .file)
    (Datum.mergeEntries (sources .environment) (sources .direct))

/-- A file, variables and direct settings supply these entries: all of them can be read. Each name
is set directly once at most. -/
structure AreRead (sources : Sources) (file : SettingsFile) (vars : List (String × String))
    (settings : Entries) : Prop where
  file : ∃ value, fileDatum file = .ok value ∧ value.entries? = some (sources .file)
  environment : variableEntries vars settings = .ok (sources .environment)
  direct : directEntries settings = sources .direct
  distinct : settings.Distinct
  unreserved : settings.get? (.str reservedName) = none

/-- Each source that supplies a section supplies a mapping. -/
structure HaveMappings (sources : Sources) (sectionName : String) : Prop where
  file : ReadsMapping (sources .file) sectionName
  environment : ∀ value, (sources .environment).get? (.str sectionName) = some value →
    ∃ entries, value = .map entries
  direct : WritesMapping (sources .direct) sectionName

/-- The highest source that has a value for a field. -/
structure Highest (sources : Sources) (setting : Setting) (source : Source) (value : Datum) :
    Prop where
  here : setting.of? (sources source) = some value
  above : ∀ higher, source.rank < higher.rank → setting.of? (sources higher) = none

/-- The entries differ in no more than the value of one field of one section, which may be
absent. -/
def AgreeBut (setting : Setting) (entries other : Entries) : Prop :=
  entries.erase (.str setting.sectionName) = other.erase (.str setting.sectionName) ∧
    (fields entries setting.sectionName).erase (.str setting.name) =
      (fields other setting.sectionName).erase (.str setting.name)

/-- The sources differ in no more than what those below `source` say of a field. -/
structure AgreeAbove (sources other : Sources) (source : Source) (setting : Setting) : Prop where
  agree : ∀ each, AgreeBut setting (sources each) (other each)
  above : ∀ each, source.rank ≤ each.rank → sources each = other each

end Sources

variable {accounts : List (String × String)} {file : SettingsFile} {vars : List (String × String)}
  {settings : Entries} {sources other : Sources} {setting : Setting}

/-! From sources to what is loaded -/

/-- What becomes of merged settings. -/
def outcome (homes : Homes) (merged : Entries) : Except LoadError Config :=
  if List.all merged fun entry => isText entry.1 then
    (Config.check homes merged).mapError .ofRejection
  else .error .keyNotText

/-- One source after the other is read, then what they make together is checked. -/
theorem load_eq_bind : load accounts file vars settings =
    if (settings.get? (.str reservedName)).isSome then .error .reservedName
    else fileDatum file >>= fun low => mergedEntries low vars settings >>= fun merged =>
      (Config.check (homes accounts vars) merged).mapError .ofRejection := by
  simp only [← settle_eq, load]
  split <;> rfl

namespace Sources

theorem AreRead.load_eq (h : sources.AreRead file vars settings) :
    load accounts file vars settings = outcome (homes accounts vars) sources.merged := by
  obtain ⟨value, hvalue, hentries⟩ := h.file
  have hmerged : mergedEntries value vars settings =
      if List.all sources.merged fun entry => isText entry.1 then .ok sources.merged
      else .error .keyNotText := by
    have henvironment := h.environment
    rw [variableEntries] at henvironment
    simp only [mergedEntries, henvironment, h.direct, overrideEntries, hentries, Except.mapError,
      bind, Except.bind, merged]
    rfl
  have hload : load accounts file vars settings =
      mergedEntries value vars settings >>= fun merged =>
        (Config.check (homes accounts vars) merged).mapError .ofRejection := by
    rw [load_eq_bind, h.unreserved, hvalue]
    rfl
  rw [hload, hmerged, outcome]
  split <;> rfl

theorem AreRead.get_of_load (h : sources.AreRead file vars settings) {config : Config}
    (hload : load accounts file vars settings = .ok config) (setting : Setting) :
    (setting.of? sources.merged).elim (setting.get config = setting.default) fun value =>
      setting.check (homes accounts vars) value = .ok (setting.get config) := by
  rw [h.load_eq, outcome] at hload
  split at hload
  · exact get_of_check (mapError_eq_ok_iff.mp hload) setting
  · cases hload

theorem AreRead.tidy (h : sources.AreRead file vars settings) : Tidy (sources .environment) :=
  tidy_environmentEntries h.environment

theorem AreRead.distinct_direct (h : sources.AreRead file vars settings) :
    (sources .direct).Distinct := by
  rw [← h.direct]
  exact distinct_directEntries h.distinct

theorem AreRead.writesMapping {sectionName : String} (h : sources.AreRead file vars settings)
    (hmappings : sources.HaveMappings sectionName) :
    WritesMapping (sources .environment) sectionName := by
  intro value hvalue
  obtain ⟨entries, rfl⟩ := hmappings.environment value hvalue
  exact ⟨entries, rfl, h.tidy.inner sectionName _ entries hvalue rfl⟩

/-- Under a name stand the values of all sources, merged. -/
theorem AreRead.get?_merged (h : sources.AreRead file vars settings) (name : String) :
    sources.merged.get? (.str name) =
      Option.merge Datum.merge ((sources .file).get? (.str name))
        (Option.merge Datum.merge ((sources .environment).get? (.str name))
          ((sources .direct).get? (.str name))) := by
  have hhigh := Datum.distinct_mergeEntries h.tidy.distinct (sources .direct)
  rw [merged, Datum.get?_mergeEntries hhigh, Datum.get?_mergeEntries h.distinct_direct]

theorem AreRead.field?_merged {sectionName : String} (h : sources.AreRead file vars settings)
    (hmappings : sources.HaveMappings sectionName) (name : String) :
    field? sources.merged sectionName name =
      Option.merge Datum.merge (field? (sources .file) sectionName name)
        (Option.merge Datum.merge (field? (sources .environment) sectionName name)
          (field? (sources .direct) sectionName name)) := by
  have henvironment := h.writesMapping hmappings
  have hhigh := Datum.distinct_mergeEntries h.tidy.distinct (sources .direct)
  have hsection := henvironment.mergeEntries h.distinct_direct hmappings.direct
  rw [merged, field?_mergeEntries hhigh hmappings.file hsection,
    field?_mergeEntries h.distinct_direct henvironment.reads hmappings.direct]

/-- The highest value, if it is no mapping, is what the merged settings hold. -/
theorem Highest.of?_merged {source : Source} {value : Datum}
    (h : sources.Highest setting source value) (hvalue : value.entries? = none)
    (hread : sources.AreRead file vars settings)
    (hmappings : sources.HaveMappings setting.sectionName) :
    setting.of? sources.merged = some value := by
  have hmerge : ∀ low : Option Datum, Option.merge Datum.merge low (some value) = some value := by
    intro low
    cases low with
    | none => rfl
    | some old => rw [Option.merge_some_some, Datum.merge_of_entries?_eq_none hvalue]
  have hhere := h.here
  have habove := h.above
  rw [Setting.of?, hread.field?_merged hmappings]
  unfold Setting.of? at hhere habove
  cases source with
  | file =>
      rw [habove .environment (by decide), habove .direct (by decide), hhere]
      rfl
  | environment => rw [habove .direct (by decide), hhere, Option.merge_none_right, hmerge]
  | direct => rw [hhere, hmerge, hmerge]

end Sources

/-! Sources that differ in one field -/

theorem exists_str_of_isSection (key : Scalar) (h : isSection key = true) :
    ∃ name, key = .str name := by
  cases key with
  | str name => exact ⟨name, rfl⟩
  | _ => cases h

theorem all_isText_filter (settings : Entries) :
    (List.all settings fun entry => isText entry.1) =
      List.all (List.filter (fun entry => !isSection entry.1) settings) fun entry =>
        isText entry.1 := by
  induction settings with
  | nil => rfl
  | cons entry settings ih =>
      rw [List.all_cons, ih, List.filter_cons]
      cases hkey : isSection entry.1 with
      | true =>
          obtain ⟨name, hname⟩ := exists_str_of_isSection entry.1 hkey
          simp [hname, isText]
      | false => simp

theorem outcome_congr {settings other : Entries} (homes : Homes)
    (hsections : ∀ name ∈ sections, SectionAlike name settings other)
    (hkeys : List.filter (fun entry => !isSection entry.1) settings =
      List.filter (fun entry => !isSection entry.1) other) :
    outcome homes settings = outcome homes other := by
  rw [outcome, outcome, all_isText_filter settings, all_isText_filter other, hkeys,
    check_congr hsections hkeys]

namespace Sources

section AgreeBut

variable {entries other : Entries}

theorem AgreeBut.get? (h : AgreeBut setting entries other) {name : String}
    (hname : name ≠ setting.sectionName) :
    entries.get? (.str name) = other.get? (.str name) := by
  rw [← Entries.get?_erase hname, h.1, Entries.get?_erase hname]

theorem AgreeBut.field? (h : AgreeBut setting entries other) {name : String}
    (hname : name ≠ setting.name) :
    field? entries setting.sectionName name = field? other setting.sectionName name := by
  rw [Config.field?, Config.field?, ← Entries.get?_erase hname, h.2, Entries.get?_erase hname]

theorem AgreeBut.filter (h : AgreeBut setting entries other) :
    List.filter (fun entry => !isSection entry.1) entries =
      List.filter (fun entry => !isSection entry.1) other := by
  have herase : ∀ source : Entries, List.filter (fun entry => !isSection entry.1)
      (source.erase (.str setting.sectionName)) =
        List.filter (fun entry => !isSection entry.1) source := by
    intro source
    rw [Entries.erase, List.filter_filter]
    refine List.filter_congr fun entry _ => ?_
    cases hkey : isSection entry.1 with
    | true => rfl
    | false =>
        have hne : entry.1.sameKey (.str setting.sectionName) = false := by
          rw [Bool.eq_false_iff]
          intro hsame
          rw [Scalar.test_eq_of_sameKey exists_str_of_isSection hsame] at hkey
          cases setting <;> cases hkey
        simp [hne]
  rw [← herase entries, h.1, herase other]

end AgreeBut

theorem filter_merged (sources : Sources) :
    List.filter (fun entry => !isSection entry.1) sources.merged =
      Sources.merged fun source =>
        List.filter (fun entry => !isSection entry.1) (sources source) := by
  have hkeeps : ∀ first second : Scalar, first.sameKey second →
      (!isSection first) = !isSection second := by
    intro first second hsame
    rw [Scalar.test_eq_of_sameKey exists_str_of_isSection hsame]
  rw [merged, Datum.filter_mergeEntries hkeeps, Datum.filter_mergeEntries hkeeps, merged]

theorem Highest.agree {source : Source} {value : Datum} (h : sources.Highest setting source value)
    (hagree : sources.AgreeAbove other source setting) :
    other.Highest setting source value where
  here := by
    rw [← hagree.above source (Nat.le_refl _)]
    exact h.here
  above := by
    intro higher hrank
    rw [← hagree.above higher (Nat.le_of_lt hrank)]
    exact h.above higher hrank

theorem Highest.sectionAlike {file' : SettingsFile} {vars' : List (String × String)}
    {source : Source} {value : Datum} (h : sources.Highest setting source value)
    (hvalue : value.entries? = none) (hagree : sources.AgreeAbove other source setting)
    (hread : sources.AreRead file vars settings)
    (hmappings : sources.HaveMappings setting.sectionName)
    (hread' : other.AreRead file' vars' settings)
    (hmappings' : other.HaveMappings setting.sectionName) (name : String) :
    SectionAlike name sources.merged other.merged := by
  by_cases hname : name = setting.sectionName
  · subst hname
    have hsome := h.of?_merged hvalue hread hmappings
    have hsome' := (h.agree hagree).of?_merged hvalue hread' hmappings'
    obtain ⟨whole, hwhole, hentries⟩ := exists_section_of_of? hsome
    obtain ⟨whole', hwhole', hentries'⟩ := exists_section_of_of? hsome'
    refine .inr ⟨whole, _, whole', _, hwhole, hentries, hwhole', hentries', ?_⟩
    intro field
    show field? _ _ _ = field? _ _ _
    by_cases hfield : field = setting.name
    · subst hfield
      exact hsome.trans hsome'.symm
    · rw [hread.field?_merged hmappings, hread'.field?_merged hmappings',
        (hagree.agree .file).field? hfield, (hagree.agree .environment).field? hfield,
        (hagree.agree .direct).field? hfield]
  · left
    rw [hread.get?_merged, hread'.get?_merged, (hagree.agree .file).get? hname,
      (hagree.agree .environment).get? hname, (hagree.agree .direct).get? hname]

end Sources

/-- What precedence says of one field. -/
structure Precedence (accounts : List (String × String)) (file : SettingsFile)
    (vars : List (String × String)) (settings : Entries) (sources : Sources) (setting : Setting) :
    Prop where
  /-- The highest value, if it is no mapping, is taken as a whole. -/
  whole : ∀ source value, sources.Highest setting source value → value.entries? = none →
    setting.of? sources.merged = some value
  /-- Lower sources may say of the field what they like, and the result is the same. -/
  hidden : ∀ source value, sources.Highest setting source value → value.entries? = none →
    ∀ file' vars' (sources' : Sources), sources'.AreRead file' vars' settings →
      sources'.HaveMappings setting.sectionName → homes accounts vars' = homes accounts vars →
      sources.AgreeAbove sources' source setting →
      load accounts file' vars' settings = load accounts file vars settings
  loaded : ∀ source value, sources.Highest setting source value → value.entries? = none →
    ∀ config, load accounts file vars settings = .ok config →
      setting.check (homes accounts vars) value = .ok (setting.get config)
  unset : (∀ source, setting.of? (sources source) = none) →
    ∀ config, load accounts file vars settings = .ok config →
      setting.get config = setting.default
  /-- What is said of other fields and sections does not change what is loaded for this one. -/
  apart : ∀ file' vars' settings' (sources' : Sources), sources'.AreRead file' vars' settings' →
    sources'.HaveMappings setting.sectionName → homes accounts vars' = homes accounts vars →
    (∀ source, setting.of? (sources' source) = setting.of? (sources source)) →
    ∀ config config', load accounts file vars settings = .ok config →
      load accounts file' vars' settings' = .ok config' → setting.get config' = setting.get config

/-- Direct settings, the environment, the file and the defaults take precedence in this order, field
by field. -/
theorem load_precedence (hread : sources.AreRead file vars settings) (setting : Setting)
    (hmappings : sources.HaveMappings setting.sectionName) :
    Precedence accounts file vars settings sources setting where
  whole := fun _ _ h hvalue => h.of?_merged hvalue hread hmappings
  hidden := by
    intro source value h hvalue file' vars' sources' hread' hmappings' hhomes hagree
    rw [hread.load_eq, hread'.load_eq, hhomes]
    -- the merged settings may still differ in the order of fields, to which a check is blind
    refine (outcome_congr _ ?_ ?_).symm
    · intro name _
      exact h.sectionAlike hvalue hagree hread hmappings hread' hmappings' name
    · rw [Sources.filter_merged, Sources.filter_merged]
      congr 1
      funext each
      exact (hagree.agree each).filter
  loaded := by
    intro source value h hvalue config hload
    have hget := hread.get_of_load hload setting
    rwa [h.of?_merged hvalue hread hmappings] at hget
  unset := by
    intro hnone config hload
    have hget := hread.get_of_load hload setting
    unfold Setting.of? at hnone hget
    rwa [hread.field?_merged hmappings, hnone, hnone, hnone] at hget
  apart := by
    intro file' vars' settings' sources' hread' hmappings' hhomes hsame config config' hload hload'
    have hget := hread.get_of_load hload setting
    have hget' := hread'.get_of_load hload' setting
    have hmerged : setting.of? sources'.merged = setting.of? sources.merged := by
      unfold Setting.of? at hsame ⊢
      rw [hread.field?_merged hmappings, hread'.field?_merged hmappings', hsame, hsame, hsame]
    rw [hmerged, hhomes] at hget'
    cases hvalue : setting.of? sources.merged with
    | none =>
        rw [hvalue] at hget hget'
        exact Eq.trans hget' (Eq.symm hget)
    | some value =>
        rw [hvalue] at hget hget'
        exact Except.ok.inj (Eq.trans (Eq.symm hget') hget)

/-- The file and a variable disagree about a field, and direct settings are about another
section. -/
def disagreeing : Sources :=
  .of [(.str "parse", .map [(.str "strict", .str "never"), (.str "depth", .int 3)])]
    [(.str "parse", .map [(.str "strict", .str "yes")])]
    [(.str "debug", .map [(.str "dump_parsed", .bool true)])]

theorem load_precedence_disagreeing :
    disagreeing.AreRead (.text "settings.yaml" "parse: {strict: never, depth: 3}")
        [("HIEGRAPH__PARSE__STRICT", "yes")] (disagreeing .direct) ∧
      disagreeing.HaveMappings Setting.strict.sectionName ∧
      disagreeing.Highest .strict .environment (.str "yes") ∧
      Precedence [] (.text "settings.yaml" "parse: {strict: never, depth: 3}")
        [("HIEGRAPH__PARSE__STRICT", "yes")] (disagreeing .direct) disagreeing .strict := by
  have hread : disagreeing.AreRead (.text "settings.yaml" "parse: {strict: never, depth: 3}")
      [("HIEGRAPH__PARSE__STRICT", "yes")] (disagreeing .direct) :=
    { file := ⟨.map (disagreeing .file), by decide +kernel, rfl⟩
      environment := by decide +kernel
      direct := by decide +kernel
      distinct := List.pairwise_singleton _ _
      unreserved := by decide }
  have hmappings : disagreeing.HaveMappings Setting.strict.sectionName :=
    { file := by
        rintro value ⟨⟩
        exact ⟨_, rfl⟩
      environment := by
        rintro value ⟨⟩
        exact ⟨_, rfl⟩
      direct := by
        rintro value hvalue
        cases hvalue }
  have hhighest : disagreeing.Highest .strict .environment (.str "yes") :=
    { here := rfl
      above := by
        intro higher hrank
        cases higher with
        | direct => rfl
        | file | environment => exact absurd hrank (by decide) }
  exact ⟨hread, hmappings, hhighest, load_precedence hread .strict hmappings⟩

end DeclGraph.Config
