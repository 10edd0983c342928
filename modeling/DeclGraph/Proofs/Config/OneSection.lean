import DeclGraph.Proofs.Config.Environment
import DeclGraph.Proofs.Config.Precedence

/-!
One section of settings, supplied by a variable that holds it as JSON, by direct settings or by a
file: it comes to the same whichever source it has.
-/

namespace DeclGraph.Config

variable {accounts : List (String × String)} {vars : List (String × String)}
  {sectionName name text : String} {given : Entries}

/-- Variables of which one holds a section as JSON and the others are none for settings. -/
structure HoldSection (vars : List (String × String)) (sectionName text : String) : Prop where
  here : ∃ var ∈ vars,
    VariableForm.default.fold var.1 = VariableForm.default.sectionVariable sectionName
  alone : ∀ var ∈ vars, IsForeign var.1 ∨ var.2 = text ∧
    VariableForm.default.fold var.1 = VariableForm.default.sectionVariable sectionName

theorem IsForeign.fold_ne {other : String} (h : IsForeign name) (hother : other ∈ sections) :
    VariableForm.default.fold name ≠ VariableForm.default.sectionVariable other := by
  intro hname
  apply h
  rw [hname]
  exact stem_isPrefix_sectionVariable other hother

theorem IsForeign.nestedPath?_eq_none {other : String} (h : IsForeign name)
    (hother : other ∈ sections) :
    nestedPath? .default other (VariableForm.default.fold name) = none := by
  apply Config.nestedPath?_eq_none
  intro hprefix
  apply h
  exact (stem_isPrefix_sectionVariable other hother).trans
    ((List.prefix_append _ _).trans hprefix)

theorem HoldSection.sectionValue (h : HoldSection vars sectionName text)
    (hsection : sectionName ∈ sections) (hread : Json.read? text = some (.map given))
    (hcase : KeepsCase sectionName given) {each : String} (heach : each ∈ sections) :
    sectionValue .default ((Environment.ofList vars).fold .default) each =
      .ok (if each = sectionName then some (.map given) else none) := by
  have hnested : nestedEntries .default each ((Environment.ofList vars).fold .default) =
      .ok [] := by
    apply nestedEntries_eq_nil
    intro var hvar
    obtain ⟨given, hgiven, rfl⟩ := Environment.mem_fold_ofList hvar
    rcases h.alone given hgiven with hforeign | ⟨-, hname⟩
    · exact hforeign.nestedPath?_eq_none heach
    · apply nestedPath?_eq_none
      rw [hname]
      exact not_isPrefix_sectionVariable sectionName hsection each heach
  by_cases hsame : each = sectionName
  · subst hsame
    rw [if_pos rfl]
    refine sectionValue_eq_map ?_ hnested hread hcase
    apply lookup_eq_some
    · intro var hvar hname
      obtain ⟨given, hgiven, rfl⟩ := Environment.mem_fold_ofList hvar
      rcases h.alone given hgiven with hforeign | ⟨htext, -⟩
      · exact absurd hname (hforeign.fold_ne heach)
      · exact htext
    · obtain ⟨var, hvar, hname⟩ := h.here
      obtain ⟨kept, hkept, hsame⟩ := Environment.exists_mem_fold_ofList hvar
      exact ⟨kept, hkept, hsame.trans hname⟩
  · rw [if_neg hsame]
    refine sectionValue_eq_none ?_ hnested
    rw [List.lookup_eq_none_iff]
    intro var hvar
    obtain ⟨given, hgiven, rfl⟩ := Environment.mem_fold_ofList hvar
    rw [bne_iff_ne, ne_comm]
    rcases h.alone given hgiven with hforeign | ⟨-, hname⟩
    · exact hforeign.fold_ne heach
    · rw [hname]
      intro hnames
      exact hsame (sectionVariable_injOn sectionName hsection each heach hnames.symm)

theorem sectionValue_foreign (h : ∀ var ∈ vars, IsForeign var.1) {each : String}
    (heach : each ∈ sections) :
    sectionValue .default ((Environment.ofList vars).fold .default) each = .ok none := by
  apply sectionValue_eq_none
  · rw [List.lookup_eq_none_iff]
    intro var hvar
    obtain ⟨given, hgiven, rfl⟩ := Environment.mem_fold_ofList hvar
    rw [bne_iff_ne, ne_comm]
    exact (h given hgiven).fold_ne heach
  · apply nestedEntries_eq_nil
    intro var hvar
    obtain ⟨given, hgiven, rfl⟩ := Environment.mem_fold_ofList hvar
    exact (h given hgiven).nestedPath?_eq_none heach

theorem holdSection_insert {before after : List (String × String)}
    (hname : VariableForm.default.fold name = VariableForm.default.sectionVariable sectionName)
    (hforeign : ∀ var ∈ before ++ after, IsForeign var.1) :
    HoldSection (before ++ (name, text) :: after) sectionName text where
  here := ⟨(name, text), List.mem_append_right _ List.mem_cons_self, hname⟩
  alone := by
    intro var hvar
    rcases List.mem_append.mp hvar with hvar | hvar
    · exact .inl (hforeign var (List.mem_append_left _ hvar))
    · rcases List.mem_cons.mp hvar with rfl | hvar
      · exact .inr ⟨rfl, hname⟩
      · exact .inl (hforeign var (List.mem_append_right _ hvar))

theorem homes_insert {before after : List (String × String)} (hname : name ≠ "HOME") :
    homes accounts (before ++ (name, text) :: after) = homes accounts (before ++ after) := by
  have hnone : List.lookup "HOME" [(name, text)] = none := by
    rw [List.lookup_eq_none_iff]
    intro var hvar
    rw [List.mem_singleton.mp hvar, bne_iff_ne]
    exact hname.symm
  simp only [homes, List.reverse_append, List.reverse_cons, List.append_assoc, List.lookup_append,
    hnone, Option.none_or]

/-! One section alone, from each source -/

theorem ofSettings_section {value : Datum} (hsection : sectionName ∈ sections) :
    VariableForm.ofSettings [(.str sectionName, value)] = .default := by
  rcases mem_sections_iff.mp hsection with rfl | rfl | rfl <;> rfl

theorem directEntries_section {value : Datum} (hsection : sectionName ∈ sections) :
    directEntries [(.str sectionName, value)] = [(.str sectionName, value)] := by
  rcases mem_sections_iff.mp hsection with rfl | rfl | rfl <;> rfl

theorem unreserved_section {value : Datum} (hsection : sectionName ∈ sections) :
    Entries.get? [(.str sectionName, value)] (.str reservedName) = none := by
  rcases mem_sections_iff.mp hsection with rfl | rfl | rfl <;> rfl

theorem variableEntries_of_holdSection {settings : Entries}
    (hform : VariableForm.ofSettings settings = .default)
    (h : HoldSection vars sectionName text)
    (hsection : sectionName ∈ sections) (hread : Json.read? text = some (.map given))
    (hcase : KeepsCase sectionName given) :
    variableEntries vars settings = .ok [(.str sectionName, .map given)] := by
  rw [variableEntries, hform, environmentEntries_eq_filterMap fun _ heach =>
    h.sectionValue hsection hread hcase heach]
  rcases mem_sections_iff.mp hsection with rfl | rfl | rfl <;> rfl

theorem variableEntries_foreign {settings : Entries}
    (hform : VariableForm.ofSettings settings = .default) (h : ∀ var ∈ vars, IsForeign var.1) :
    variableEntries vars settings = .ok [] := by
  rw [variableEntries, hform, environmentEntries_eq_filterMap fun _ heach =>
    sectionValue_foreign h heach]
  rfl

/-- A section means the same as JSON in a variable of its own, as direct settings and as a mapping
in a file, valid or not. -/
theorem load_section_alike {before after : List (String × String)}
    (hsection : sectionName ∈ sections)
    (hname : VariableForm.default.fold name = VariableForm.default.sectionVariable sectionName)
    (hforeign : ∀ var ∈ before ++ after, IsForeign var.1)
    (hread : Json.read? text = some (.map given)) (hcase : KeepsCase sectionName given) :
    load accounts .unasked (before ++ (name, text) :: after) [] =
        load accounts .unasked (before ++ after) [(.str sectionName, .map given)] ∧
      ∀ path content, Yaml.read content = .ok (.map [(.str sectionName, .map given)]) →
        load accounts (.text path content) (before ++ after) [] =
          load accounts .unasked (before ++ after) [(.str sectionName, .map given)] := by
  have hform := @ofSettings_section sectionName (.map given) hsection
  have hvariable : (Sources.of [] [(.str sectionName, .map given)] []).AreRead .unasked
      (before ++ (name, text) :: after) [] :=
    { file := ⟨.map [], rfl, rfl⟩
      environment := variableEntries_of_holdSection rfl (holdSection_insert hname hforeign) hsection
        hread hcase
      direct := rfl
      distinct := Entries.distinct_nil
      unreserved := rfl }
  have hdirect : (Sources.of [] [] [(.str sectionName, .map given)]).AreRead .unasked
      (before ++ after) [(.str sectionName, .map given)] :=
    { file := ⟨.map [], rfl, rfl⟩
      environment := variableEntries_foreign hform hforeign
      direct := directEntries_section hsection
      distinct := List.pairwise_singleton _ _
      unreserved := unreserved_section hsection }
  have hhome : name ≠ "HOME" := by
    rintro rfl
    exact sectionVariable_ne_home sectionName hsection hname.symm
  refine ⟨?_, ?_⟩
  · rw [hvariable.load_eq, hdirect.load_eq, homes_insert hhome]
    rfl
  · intro path content hcontent
    have hdatum : fileDatum (.text path content) = .ok (.map [(.str sectionName, .map given)]) := by
      rw [fileDatum, readSettings, hcontent]
      rfl
    have hfile : (Sources.of [(.str sectionName, .map given)] [] []).AreRead (.text path content)
        (before ++ after) [] :=
      { file := ⟨_, hdatum, rfl⟩
        environment := variableEntries_foreign rfl hforeign
        direct := rfl
        distinct := Entries.distinct_nil
        unreserved := rfl }
    rw [hfile.load_eq, hdirect.load_eq]
    rfl

/-- Beside a level the section has outputs that are no list, and a key that is no field. -/
def outputless : Entries :=
  [(.str "outputs", .int 3), (.str "level", .str "INFO"), (.str "LEVELS", .int 1)]

def outputlessText : String := "\x7b\"outputs\": 3, \"level\": \"INFO\", \"LEVELS\": 1\x7d"

def outputlessFile : String := "logging:\n  outputs: 3\n  level: INFO\n  LEVELS: 1\n"

theorem load_section_alike_outputless :
    "logging" ∈ sections ∧
      VariableForm.default.fold "HieGraph__Logging" =
        VariableForm.default.sectionVariable "logging" ∧
      (∀ var ∈ [("HOME", "/home/u")] ++ [("HIEGRAPH", "x")], IsForeign var.1) ∧
      Json.read? outputlessText = some (.map outputless) ∧
      KeepsCase "logging" outputless ∧
      Yaml.read outputlessFile = .ok (.map [(.str "logging", .map outputless)]) ∧
      load [] .unasked ([("HOME", "/home/u")] ++
          ("HieGraph__Logging", outputlessText) :: [("HIEGRAPH", "x")]) [] =
        load [] .unasked ([("HOME", "/home/u")] ++ [("HIEGRAPH", "x")])
          [(.str "logging", .map outputless)] ∧
      load [] (.text "settings.yaml" outputlessFile)
          ([("HOME", "/home/u")] ++ [("HIEGRAPH", "x")]) [] =
        load [] .unasked ([("HOME", "/home/u")] ++ [("HIEGRAPH", "x")])
          [(.str "logging", .map outputless)] := by
  have hname : VariableForm.default.fold "HieGraph__Logging" =
      VariableForm.default.sectionVariable "logging" := by decide
  have hforeign : ∀ var ∈ [("HOME", "/home/u")] ++ [("HIEGRAPH", "x")], IsForeign var.1 := by
    unfold IsForeign
    decide
  have hread : Json.read? outputlessText = some (.map outputless) := by decide +kernel
  have hcase : KeepsCase "logging" outputless := by
    rintro entry hentry name hkey
    simp only [outputless, List.mem_cons, List.not_mem_nil, or_false] at hentry
    rcases hentry with rfl | rfl | rfl <;> cases hkey <;> decide
  have hcontent : Yaml.read outputlessFile = .ok (.map [(.str "logging", .map outputless)]) := by
    decide +kernel
  obtain ⟨hvariable, hfile⟩ :=
    @load_section_alike [] _ _ _ _ _ _ (by decide) hname hforeign hread hcase
  exact ⟨by decide, hname, hforeign, hread, hcase, hcontent, hvariable, hfile _ _ hcontent⟩

end DeclGraph.Config
