import DeclGraph.Proofs.Config.Fields
import DeclGraph.Proofs.Config.Merge

/-!
What the sources of settings supply, section by section, and what is left of it once they are
merged.
-/

namespace DeclGraph

theorem foldlM_induction {ε α β : Type} {motive : β → Prop} {f : β → α → Except ε β} {as : List α}
    (hstep : ∀ b a c, a ∈ as → motive b → f b a = .ok c → motive c) {b c : β} (hb : motive b)
    (h : as.foldlM f b = .ok c) : motive c := by
  induction as generalizing b with
  | nil =>
      cases h
      exact hb
  | cons a as ih =>
      rw [List.foldlM_cons] at h
      obtain ⟨d, hd, hrest⟩ := bind_eq_ok_iff.mp h
      refine ih ?_ (hstep b a d List.mem_cons_self hb hd) hrest
      intro b' a' c' ha'
      exact hstep b' a' c' (List.mem_cons_of_mem a ha')

namespace Json

theorem unsignedNumber_eq_scalar {negative : Bool} {cs rest : List Char} {x : Datum}
    (h : unsignedNumber negative cs = some (x, rest)) : ∃ s, x = .scalar s := by
  unfold unsignedNumber at h
  extract_lets whole at h
  split at h
  · cases h
  · dsimp only at h
    split at h
    · split at h
      · cases h
      · obtain ⟨rfl, -⟩ := Prod.mk.inj (Option.some.inj h)
        exact ⟨_, rfl⟩
    · obtain ⟨rfl, -⟩ := Prod.mk.inj (Option.some.inj h)
      exact ⟨_, rfl⟩

/-- JSON has no documents that contain themselves. -/
theorem untie_of_value {fuel : Nat} {cs rest : List Char} {x : Datum}
    (h : value fuel cs = some (x, rest)) : x.untie = x := by
  have hmap {α : Type} {o : Option α} {f : α → Datum × List Char}
      (hf : ∀ a, (f a).1.untie = (f a).1) (h : o.map f = some (x, rest)) : x.untie = x := by
    obtain ⟨a, -, ha⟩ := Option.map_eq_some_iff.mp h
    have hx := hf a
    rwa [ha] at hx
  have hnumber {negative : Bool} {cs : List Char}
      (h : unsignedNumber negative cs = some (x, rest)) : x.untie = x := by
    obtain ⟨s, rfl⟩ := unsignedNumber_eq_scalar h
    rfl
  cases fuel with
  | zero => cases h
  | succ fuel =>
    unfold value at h
    split at h
    · exact hmap (fun _ => rfl) h
    · split at h
      · cases h
        rfl
      · exact hmap (fun _ => rfl) h
    · split at h
      · cases h
        rfl
      · exact hmap (fun _ => rfl) h
    · exact hmap (fun _ => rfl) h
    · exact hmap (fun _ => rfl) h
    · exact hmap (fun _ => rfl) h
    · exact hmap (fun _ => rfl) h
    · exact hmap (fun _ => rfl) h
    · exact hmap (fun _ => rfl) h
    · exact hnumber h
    · exact hnumber h

theorem untie_of_read? {text : String} {x : Datum} (h : read? text = some x) : x.untie = x := by
  unfold read? at h
  obtain ⟨⟨y, rest⟩, hvalue, hrest⟩ := Option.bind_eq_some_iff.mp h
  dsimp only at hrest
  split at hrest
  · cases hrest
    exact untie_of_value hvalue
  · cases hrest

/-- An object that is read holds each key once. -/
theorem distinct_of_value {fuel : Nat} {cs rest : List Char} {entries : Entries}
    (h : value fuel cs = some (.map entries, rest)) : entries.Distinct := by
  have hmap {α : Type} {o : Option α} {f : α → Datum × List Char}
      (h : o.map f = some (.map entries, rest))
      (hf : ∀ a entries, (f a).1 = .map entries → Entries.Distinct entries) :
      entries.Distinct := by
    obtain ⟨a, -, ha⟩ := Option.map_eq_some_iff.mp h
    exact hf a entries (congrArg Prod.fst ha)
  have hother {α : Type} {o : Option α} {f : α → Datum × List Char}
      (h : o.map f = some (.map entries, rest)) (hf : ∀ a entries, (f a).1 ≠ .map entries) :
      entries.Distinct :=
    hmap h fun a entries ha => absurd ha (hf a entries)
  have hnumber {negative : Bool} {cs : List Char} :
      unsignedNumber negative cs ≠ some (.map entries, rest) := by
    intro h
    obtain ⟨s, hs⟩ := unsignedNumber_eq_scalar h
    cases hs
  cases fuel with
  | zero => cases h
  | succ fuel =>
    unfold value at h
    split at h
    · exact hother h (by simp)
    · split at h
      · cases h
      · exact hother h (by simp)
    · split at h
      · cases h
        exact Entries.distinct_nil
      · refine hmap h ?_
        rintro ⟨members, _⟩ _ ⟨⟩
        exact Entries.distinct_ofList members
    · exact hother h (by simp)
    · exact hother h (by simp)
    · exact hother h (by simp)
    · exact hother h (by simp)
    · exact hother h (by simp)
    · exact hother h (by simp)
    · exact absurd h hnumber
    · exact absurd h hnumber

theorem distinct_of_read? {text : String} {entries : Entries}
    (h : read? text = some (.map entries)) : entries.Distinct := by
  unfold read? at h
  obtain ⟨⟨x, rest⟩, hvalue, hrest⟩ := Option.bind_eq_some_iff.mp h
  dsimp only at hrest
  split at hrest
  · cases hrest
    exact distinct_of_value hvalue
  · cases hrest

end Json

namespace Config

/-- The source has a mapping for the section, or nothing. -/
def ReadsMapping (source : Entries) (sectionName : String) : Prop :=
  ∀ value, source.get? (.str sectionName) = some value →
    ∃ entries, value.entries? = some entries

/-- As `ReadsMapping`, for a mapping that is written out with each key once. -/
def WritesMapping (source : Entries) (sectionName : String) : Prop :=
  ∀ value, source.get? (.str sectionName) = some value →
    ∃ entries : Entries, value = .map entries ∧ entries.Distinct

variable {source low high : Entries} {sectionName name : String}

theorem WritesMapping.reads (h : WritesMapping source sectionName) :
    ReadsMapping source sectionName := by
  intro value hvalue
  obtain ⟨entries, rfl, -⟩ := h value hvalue
  exact ⟨entries, rfl⟩

theorem fields_of_get?_eq_none (h : source.get? (.str sectionName) = none) :
    fields source sectionName = [] := by
  rw [fields, h]
  rfl

theorem fields_of_get? {value : Datum} {entries : Entries}
    (h : source.get? (.str sectionName) = some value) (hentries : value.entries? = some entries) :
    fields source sectionName = entries := by
  rw [fields, h, Option.bind_some, hentries, Option.getD_some]

/-- Settings that have a value for a field have a mapping for its section. -/
theorem exists_section_of_of? {setting : Setting} {merged : Entries} {value : Datum}
    (h : setting.of? merged = some value) :
    ∃ whole, merged.get? (.str setting.sectionName) = some whole ∧
      whole.entries? = some (fields merged setting.sectionName) := by
  cases hget : merged.get? (.str setting.sectionName) with
  | none =>
      rw [Setting.of?, field?, fields_of_get?_eq_none hget] at h
      cases h
  | some whole =>
      refine ⟨whole, rfl, ?_⟩
      cases hentries : whole.entries? with
      | none =>
          rw [Setting.of?, field?, fields, hget, Option.bind_some, hentries] at h
          cases h
      | some entries => rw [fields_of_get? hget hentries]

/-! Merging sections -/

/-- What a section is once two sources are merged, of which the higher one writes out a mapping. -/
theorem get?_mergeEntries_section (hdistinct : high.Distinct) (hlow : ReadsMapping low sectionName)
    (hhigh : WritesMapping high sectionName) :
    (high.get? (.str sectionName) = none ∧
      Entries.get? (Datum.mergeEntries low high) (.str sectionName) =
        low.get? (.str sectionName)) ∨
    ∃ entries : Entries, high.get? (.str sectionName) = some (.map entries) ∧ entries.Distinct ∧
      Entries.get? (Datum.mergeEntries low high) (.str sectionName) =
        some (.map (if (low.get? (.str sectionName)).isSome then
          Datum.mergeEntries (fields low sectionName) entries else entries)) := by
  rw [Datum.get?_mergeEntries hdistinct]
  cases hget : high.get? (.str sectionName) with
  | none => exact .inl ⟨rfl, Option.merge_none_right⟩
  | some given =>
      obtain ⟨entries, rfl, hentries⟩ := hhigh given hget
      refine .inr ⟨entries, rfl, hentries, ?_⟩
      cases hold : low.get? (.str sectionName) with
      | none => rfl
      | some old =>
          obtain ⟨lower, hlower⟩ := hlow old hold
          rw [Option.merge_some_some, Datum.merge_map hlower, fields_of_get? hold hlower]
          rfl

theorem field?_mergeEntries (hdistinct : high.Distinct) (hlow : ReadsMapping low sectionName)
    (hhigh : WritesMapping high sectionName) (name : String) :
    field? (Datum.mergeEntries low high) sectionName name =
      Option.merge Datum.merge (field? low sectionName name) (field? high sectionName name) := by
  rcases get?_mergeEntries_section hdistinct hlow hhigh with
    ⟨hnone, hget⟩ | ⟨entries, hgiven, hentries, hget⟩
  · have hsame : fields (Datum.mergeEntries low high) sectionName = fields low sectionName := by
      rw [fields, hget, fields]
    rw [field?, hsame, field?, field?, fields_of_get?_eq_none hnone]
    exact Option.merge_none_right.symm
  · rw [field?, fields_of_get? hget rfl, field?, field?, fields_of_get? hgiven rfl]
    cases hold : low.get? (.str sectionName) with
    | none =>
        rw [fields_of_get?_eq_none hold]
        exact Option.merge_none_left.symm
    | some old => exact Datum.get?_mergeEntries hentries _ name

theorem ReadsMapping.mergeEntries (hdistinct : high.Distinct) (hlow : ReadsMapping low sectionName)
    (hhigh : WritesMapping high sectionName) :
    ReadsMapping (Datum.mergeEntries low high) sectionName := by
  intro value hvalue
  rcases get?_mergeEntries_section hdistinct hlow hhigh with ⟨-, hget⟩ | ⟨entries, -, -, hget⟩
  · exact hlow value (hget.symm.trans hvalue)
  · rw [hget] at hvalue
    cases hvalue
    exact ⟨_, rfl⟩

theorem WritesMapping.mergeEntries (hdistinct : high.Distinct)
    (hlow : WritesMapping low sectionName) (hhigh : WritesMapping high sectionName) :
    WritesMapping (Datum.mergeEntries low high) sectionName := by
  intro value hvalue
  rcases get?_mergeEntries_section hdistinct hlow.reads hhigh with
    ⟨-, hget⟩ | ⟨entries, -, hentries, hget⟩
  · exact hlow value (hget.symm.trans hvalue)
  · rw [hget] at hvalue
    cases hvalue
    refine ⟨_, rfl, ?_⟩
    cases hold : low.get? (.str sectionName) with
    | none => exact hentries
    | some old =>
        obtain ⟨lower, rfl, hlower⟩ := hlow old hold
        rw [fields_of_get? hold rfl]
        exact Datum.distinct_mergeEntries hlower entries

/-! The environment -/

theorem distinct_foldKeys (form : VariableForm) (sectionName : String) (entries : Entries) :
    (foldKeys form sectionName entries).Distinct := by
  unfold foldKeys
  exact List.foldlRecOn entries _ Entries.distinct_nil fun _ h _ _ => h.insert _ _

/-- A mapping that variables make up holds each key once. -/
theorem distinct_of_sectionValue {form : VariableForm} {env : Environment} {value : Datum}
    {entries : Entries} (h : sectionValue form env sectionName = .ok (some value))
    (hentries : value.entries? = some entries) : entries.Distinct := by
  unfold sectionValue at h
  split at h
  · obtain ⟨nested, -, hnested⟩ := bind_eq_ok_iff.mp h
    split at hnested
    · cases hnested
    · cases hnested
      cases hentries
      exact distinct_foldKeys form sectionName nested
  · split at h
    · cases h
      cases hentries
    · split at h
      · cases h
      · cases h
      · obtain ⟨nested, -, hnested⟩ := bind_eq_ok_iff.mp h
        cases hnested
        cases hentries
        exact distinct_foldKeys form sectionName _
      · next given _ hmap hread =>
        cases h
        have hopen : value.untie = value := Json.untie_of_read? hread
        rw [Datum.entries?, hopen] at hentries
        split at hentries
        · exact absurd rfl (hmap _)
        · cases hentries

/-- The entries hold each key once, and so do the mappings in them. -/
structure Tidy (source : Entries) : Prop where
  distinct : source.Distinct
  inner : ∀ name value entries, source.get? (.str name) = some value →
    value.entries? = some entries → Entries.Distinct entries

theorem Tidy.insert (h : Tidy source) {key : Scalar} {value : Datum}
    (hvalue : ∀ entries : Entries, value.entries? = some entries → entries.Distinct) :
    Tidy (source.insert key value) where
  distinct := h.distinct.insert key value
  inner := by
    intro name given entries hget hentries
    rw [Entries.get?_insert] at hget
    split at hget
    · obtain rfl := Option.some.inj hget
      exact hvalue entries hentries
    · exact h.inner name given entries hget hentries

theorem tidy_environmentEntries {form : VariableForm} {env : Environment}
    (h : environmentEntries form env = .ok source) : Tidy source := by
  refine foldlM_induction (motive := Tidy) ?_ ⟨Entries.distinct_nil, fun _ _ _ => nofun⟩ h
  intro entries sectionName next _ hentries hstep
  obtain ⟨value?, hvalue, hnext⟩ := bind_eq_ok_iff.mp hstep
  cases value? with
  | none =>
      cases hnext
      exact hentries
  | some value =>
      cases hnext
      exact hentries.insert fun inner hinner => distinct_of_sectionValue hvalue hinner

/-- Variables supply sections and nothing else. -/
theorem isSection_of_mem_environmentEntries {form : VariableForm} {env : Environment}
    (h : environmentEntries form env = .ok source) : ∀ entry ∈ source, isSection entry.1 := by
  refine foldlM_induction (motive := fun entries : Entries => ∀ entry ∈ entries, isSection entry.1)
    ?_ (by simp) h
  intro entries sectionName next hsection hentries hstep
  obtain ⟨value?, -, hnext⟩ := bind_eq_ok_iff.mp hstep
  cases value? with
  | none =>
      cases hnext
      exact hentries
  | some value =>
      cases hnext
      intro entry hentry
      rcases Entries.key_of_mem_insert hentry with hkey | ⟨old, hold, hkey⟩
      · rw [hkey]
        exact List.contains_iff_mem.mpr hsection
      · rw [← hkey]
        exact hentries old hold

/-! Direct settings -/

theorem lower_of_mem_sections : ∀ name ∈ sections, Text.lower name = name := by
  decide

theorem distinct_directEntries {settings : Entries} (h : settings.Distinct) :
    (directEntries settings).Distinct := by
  rw [directEntries, Entries.Distinct, List.map_append, List.pairwise_append]
  refine ⟨?_, h.sublist (List.filter_sublist.map _), ?_⟩
  · have hnames : sections.Pairwise (· ≠ ·) := by decide
    refine List.pairwise_map.mpr (hnames.filterMap _ ?_)
    intro first second hne entry hentry other hother hsame
    obtain ⟨_, -, rfl⟩ := Option.map_eq_some_iff.mp hentry
    obtain ⟨_, -, rfl⟩ := Option.map_eq_some_iff.mp hother
    exact hne (Scalar.str.inj (Scalar.sameKey_str_iff.mp hsame))
  · intro key hkey other hother hsame
    obtain ⟨entry, hentry, rfl⟩ := List.mem_map.mp hkey
    obtain ⟨name, hname, hentry⟩ := List.mem_filterMap.mp hentry
    obtain ⟨_, -, rfl⟩ := Option.map_eq_some_iff.mp hentry
    obtain ⟨⟨otherKey, value⟩, hmem, rfl⟩ := List.mem_map.mp hother
    obtain rfl := Scalar.str_sameKey_iff.mp hsame
    -- a key that names a section in any case is not kept among the others
    have hkept := (List.mem_filter.mp hmem).2
    simp [lower_of_mem_sections name hname, hname] at hkept

end Config

end DeclGraph
