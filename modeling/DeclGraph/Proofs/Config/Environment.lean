import DeclGraph.Proofs.Config.Sources

/-!
Settings in the environment: which variables count, and what one of them gives a section.
-/

namespace DeclGraph.Config

variable {vars : List (String × String)} {sectionName name text : String} {given : Entries}

namespace Environment

theorem mem_insert {env : Environment} {var : String × String}
    (h : var ∈ insert name text env) : var = (name, text) ∨ var ∈ env := by
  induction env with
  | nil => exact .inl (List.mem_singleton.mp h)
  | cons head env ih =>
      obtain ⟨n, t⟩ := head
      rw [insert] at h
      split at h
      · next hn =>
        subst hn
        rcases List.mem_cons.mp h with h | h
        · exact .inl h
        · exact .inr (List.mem_cons_of_mem _ h)
      · rcases List.mem_cons.mp h with h | h
        · exact .inr (h ▸ List.mem_cons_self)
        · rcases ih h with h | h
          · exact .inl h
          · exact .inr (List.mem_cons_of_mem _ h)

theorem exists_mem_insert_of_mem {env : Environment} {var : String × String}
    (h : var = (name, text) ∨ var ∈ env) : ∃ other ∈ insert name text env, other.1 = var.1 := by
  induction env with
  | nil =>
      rcases h with rfl | h
      · exact ⟨_, List.mem_singleton_self _, rfl⟩
      · cases h
  | cons head env ih =>
      obtain ⟨n, t⟩ := head
      rw [insert]
      split
      · next hn =>
        rcases h with rfl | h
        · exact ⟨_, List.mem_cons_self, hn⟩
        · rcases List.mem_cons.mp h with rfl | h
          · exact ⟨_, List.mem_cons_self, rfl⟩
          · exact ⟨var, List.mem_cons_of_mem _ h, rfl⟩
      · have hrest : var = (n, t) ∨ var = (name, text) ∨ var ∈ env := by
          rw [List.mem_cons] at h
          tauto
        rcases hrest with rfl | hrest
        · exact ⟨_, List.mem_cons_self, rfl⟩
        · obtain ⟨other, hother, hname⟩ := ih hrest
          exact ⟨other, List.mem_cons_of_mem _ hother, hname⟩

theorem mem_ofList {var : String × String} (h : var ∈ ofList vars) : var ∈ vars := by
  unfold ofList at h
  revert h
  refine List.foldlRecOn (motive := fun env => var ∈ env → var ∈ vars) vars _ (by simp) ?_
  rintro env henv ⟨n, t⟩ hmem h
  rcases mem_insert h with rfl | h
  · exact hmem
  · exact henv h

/-- No name is lost. -/
theorem exists_mem_ofList {var : String × String} (h : var ∈ vars) :
    ∃ other ∈ ofList vars, other.1 = var.1 := by
  have hrun : ∀ env : Environment, (var ∈ vars ∨ ∃ other ∈ env, other.1 = var.1) →
      ∃ other ∈ vars.foldl (fun env var => insert var.1 var.2 env) env, other.1 = var.1 := by
    clear h
    induction vars with
    | nil => simp
    | cons head vars ih =>
        intro env h
        rw [List.foldl_cons]
        apply ih
        rcases h with h | ⟨other, hother, hname⟩
        · rcases List.mem_cons.mp h with rfl | h
          · exact .inr (exists_mem_insert_of_mem (.inl rfl))
          · exact .inl h
        · obtain ⟨kept, hkept, hsame⟩ := exists_mem_insert_of_mem (.inr hother)
          exact .inr ⟨kept, hkept, hsame.trans hname⟩
  exact hrun [] (.inl h)

theorem mem_fold_ofList {var : String × String} (h : var ∈ (ofList vars).fold .default) :
    ∃ other ∈ vars, var = (VariableForm.default.fold other.1, other.2) := by
  obtain ⟨other, hother, rfl⟩ := List.mem_map.mp (mem_ofList h)
  exact ⟨other, mem_ofList (List.mem_filter.mp hother).1, rfl⟩

theorem exists_mem_fold_ofList {var : String × String} (h : var ∈ vars) :
    ∃ other ∈ (ofList vars).fold .default, other.1 = VariableForm.default.fold var.1 := by
  obtain ⟨kept, hkept, hname⟩ := exists_mem_ofList h
  have hmem : (VariableForm.default.fold kept.1, kept.2) ∈
      ((ofList vars).filter fun var =>
        !(VariableForm.default.skipsEmpty && var.2.isEmpty)).map
        fun var => (VariableForm.default.fold var.1, var.2) :=
    List.mem_map.mpr ⟨kept, List.mem_filter.mpr ⟨hkept, rfl⟩, rfl⟩
  obtain ⟨other, hother, hsame⟩ := exists_mem_ofList hmem
  exact ⟨other, hother, by rw [hsame, hname]⟩

end Environment

/-- The variable is none for settings: its name starts in another way. -/
def IsForeign (name : String) : Prop :=
  ¬ (VariableForm.default.fold VariableForm.default.stem).toList <+:
    (VariableForm.default.fold name).toList

/-- No key is a field of the section but for the case of its letters. -/
def KeepsCase (sectionName : String) (entries : Entries) : Prop :=
  ∀ entry ∈ entries, ∀ name, entry.1 = .str name →
    ∀ field ∈ fieldNames sectionName, Text.lower name = Text.lower field → name = field

theorem mem_sections_iff : sectionName ∈ sections ↔
    sectionName = "logging" ∨ sectionName = "parse" ∨ sectionName = "debug" := by
  simp [sections]

/-! Variables for a section -/

theorem stem_isPrefix_sectionVariable : ∀ sectionName ∈ sections,
    (VariableForm.default.fold VariableForm.default.stem).toList <+:
      (VariableForm.default.sectionVariable sectionName).toList := by
  decide

theorem not_isPrefix_sectionVariable : ∀ sectionName ∈ sections, ∀ other ∈ sections,
    ¬ (VariableForm.default.sectionVariable other).toList ++ VariableForm.default.delimiter.toList
      <+: (VariableForm.default.sectionVariable sectionName).toList := by
  decide

theorem sectionVariable_ne_home : ∀ sectionName ∈ sections,
    VariableForm.default.sectionVariable sectionName ≠ VariableForm.default.fold "HOME" := by
  decide

theorem sectionVariable_injOn : ∀ sectionName ∈ sections, ∀ other ∈ sections,
    VariableForm.default.sectionVariable other = VariableForm.default.sectionVariable sectionName →
      other = sectionName := by
  decide

section Variables

variable {form : VariableForm} {env : Environment}

theorem nestedPath?_eq_none
    (h : ¬ (form.sectionVariable sectionName).toList ++ form.delimiter.toList <+: name.toList) :
    nestedPath? form sectionName name = none := by
  rw [← List.isPrefixOf_iff_prefix, Bool.not_eq_true] at h
  unfold nestedPath?
  simp only [h, Bool.and_false, Bool.false_eq_true, if_false]

theorem nestedEntries_eq_nil (h : ∀ var ∈ env, nestedPath? form sectionName var.1 = none) :
    nestedEntries form sectionName env = .ok [] := by
  unfold nestedEntries
  induction env with
  | nil => rfl
  | cons var env ih =>
      obtain ⟨name, text⟩ := var
      obtain ⟨hhead, htail⟩ := List.forall_mem_cons.mp h
      simp only [List.foldlM_cons, hhead]
      exact ih htail

theorem sectionValue_eq_none (hlookup : env.lookup (form.sectionVariable sectionName) = none)
    (hnested : nestedEntries form sectionName env = .ok []) :
    sectionValue form env sectionName = .ok none := by
  rw [sectionValue, hlookup]
  simp only [hnested]
  rfl

theorem lower_of_mem_fieldNames {field : String} (h : field ∈ fieldNames sectionName) :
    Text.lower field = field := by
  obtain ⟨setting, -, rfl⟩ := Setting.mem_fieldNames_iff.mp h
  cases setting <;> decide

/-- Keys that are fields as they stand are not changed. -/
theorem foldKeys_eq_self (hcase : KeepsCase sectionName given) (hdistinct : given.Distinct) :
    foldKeys .default sectionName given = given := by
  have hinsert : foldKeys .default sectionName given = Entries.insertAll [] given := by
    refine List.foldl_ext _ _ [] fun acc entry hentry => ?_
    obtain ⟨key, value⟩ := entry
    cases key with
    | str name =>
        have hname : ((fieldNames sectionName).find? fun field =>
            field == VariableForm.default.fold name).getD name = name := by
          cases hfind : (fieldNames sectionName).find? fun field =>
              field == VariableForm.default.fold name with
          | none => rfl
          | some field =>
              have hfield := List.mem_of_find?_eq_some hfind
              have hfold : field = VariableForm.default.fold name := by
                simpa using List.find?_some hfind
              have hlower : Text.lower name = Text.lower field := by
                rw [lower_of_mem_fieldNames hfield, hfold]
                rfl
              exact (hcase _ hentry name rfl field hfield hlower).symm
        simp only [hname]
    | _ => rfl
  rw [hinsert]
  exact Entries.ofList_of_distinct hdistinct

theorem sectionValue_eq_map (hlookup : env.lookup (VariableForm.default.sectionVariable sectionName)
      = some text) (hnested : nestedEntries .default sectionName env = .ok [])
    (hread : Json.read? text = some (.map given)) (hcase : KeepsCase sectionName given) :
    sectionValue .default env sectionName = .ok (some (.map given)) := by
  have hkeys := foldKeys_eq_self hcase (Json.distinct_of_read? hread)
  rw [sectionValue, hlookup]
  simp only [hread, hnested]
  show Except.ok (some (Datum.map (foldKeys .default sectionName given))) = _
  rw [hkeys]

theorem lookup_eq_some {key : String} (hvalue : ∀ var ∈ env, var.1 = key → var.2 = text)
    (hname : ∃ var ∈ env, var.1 = key) : env.lookup key = some text := by
  obtain ⟨var, hvar, hkey⟩ := hname
  have hsome : (env.lookup key).isSome :=
    List.lookup_isSome_iff.mpr ⟨var, hvar, by rw [hkey, beq_self_eq_true]⟩
  obtain ⟨found, hfound⟩ := Option.isSome_iff_exists.mp hsome
  obtain ⟨first, rest, henv, -⟩ := List.lookup_eq_some_iff.mp hfound
  have hmem : (key, found) ∈ env := by
    rw [henv]
    exact List.mem_append_right _ List.mem_cons_self
  rw [hfound, ← hvalue _ hmem rfl]

theorem foldlM_eq_append {f : Entries → String → Except Undecodable Entries}
    {values : String → Option Datum} {names : List String} (hnames : names.Nodup)
    (hstep : ∀ entries, ∀ each ∈ names,
      f entries each = .ok ((values each).elim entries (entries.insert (.str each) ·)))
    {entries : Entries} (hnew : ∀ entry ∈ entries, ∀ each ∈ names, entry.1 ≠ .str each) :
    names.foldlM f entries =
      .ok (entries ++ names.filterMap fun each => (values each).map (.str each, ·)) := by
  induction names generalizing entries with
  | nil =>
      rw [List.filterMap_nil, List.append_nil]
      rfl
  | cons each names ih =>
      obtain ⟨hnotMem, hnames⟩ := List.nodup_cons.mp hnames
      have htail : ∀ entries, ∀ other ∈ names,
          f entries other = .ok ((values other).elim entries (entries.insert (.str other) ·)) :=
        fun entries other hother => hstep entries other (List.mem_cons_of_mem _ hother)
      rw [List.foldlM_cons, hstep entries each List.mem_cons_self, List.filterMap_cons]
      cases values each with
      | none =>
          apply ih hnames htail
          intro entry hentry other hother
          exact hnew entry hentry other (List.mem_cons_of_mem _ hother)
      | some value =>
          have hinsert : entries.insert (.str each) value = entries ++ [(.str each, value)] := by
            apply Entries.insert_of_notMem
            intro entry hentry hsame
            exact hnew entry hentry each List.mem_cons_self (Scalar.sameKey_str_iff.mp hsame)
          show names.foldlM f (entries.insert (.str each) value) = _
          rw [hinsert, ih hnames htail, List.append_assoc]
          · rfl
          · intro entry hentry other hother
            rcases List.mem_append.mp hentry with hentry | hentry
            · exact hnew entry hentry other (List.mem_cons_of_mem _ hother)
            · rw [List.mem_singleton.mp hentry]
              rintro ⟨⟩
              exact hnotMem hother

/-- Sections stand in their own order, whatever that of the variables. -/
theorem environmentEntries_eq_filterMap {values : String → Option Datum}
    (h : ∀ each ∈ sections, sectionValue form env each = .ok (values each)) :
    environmentEntries form env =
      .ok (sections.filterMap fun each => (values each).map (.str each, ·)) := by
  unfold environmentEntries
  refine foldlM_eq_append (by decide) ?_ (by simp)
  intro entries each heach
  rw [h each heach]
  cases values each <;> rfl

end Variables

end DeclGraph.Config
