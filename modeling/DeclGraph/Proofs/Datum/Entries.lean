import Mathlib.Data.List.Basic
import DeclGraph.Datum

/-!
Entries of a mapping under keys that are texts: looking one up after others have been put in or left
out, and mappings that hold each key once.
-/

namespace DeclGraph

namespace Scalar

/-- A text is the same key as itself only. -/
@[simp] theorem sameKey_str_iff {key : Scalar} {name : String} :
    key.sameKey (.str name) = true ↔ key = .str name := by
  cases key with
  | float value => cases h : value.toInt? <;> simp [sameKey, number?, h]
  | _ => simp [sameKey, number?]

@[simp] theorem str_sameKey_iff {key : Scalar} {name : String} :
    (Scalar.str name).sameKey key = true ↔ key = .str name := by
  cases key with
  | str other => simpa [sameKey, number?] using eq_comm
  | _ => simp [sameKey, number?]

/-- A test that only texts pass does not tell equal keys apart. -/
theorem test_eq_of_sameKey {test : Scalar → Bool}
    (htexts : ∀ key, test key = true → ∃ name, key = .str name) {first second : Scalar}
    (h : first.sameKey second) : test first = test second := by
  rw [Bool.eq_iff_iff]
  constructor
  · intro hfirst
    obtain ⟨name, rfl⟩ := htexts first hfirst
    rwa [str_sameKey_iff.mp h]
  · intro hsecond
    obtain ⟨name, rfl⟩ := htexts second hsecond
    rwa [sameKey_str_iff.mp h]

end Scalar

namespace Entries

variable {entries : Entries} {key : Scalar} {value : Datum} {name : String}

theorem get?_cons {entry : Scalar × Datum} :
    get? (entry :: entries) key =
      if entry.1.sameKey key then some entry.2 else get? entries key := by
  rw [get?, List.find?_cons]
  cases entry.1.sameKey key <;> rfl

theorem get?_eq_none_iff : get? entries key = none ↔ ∀ entry ∈ entries, ¬ entry.1.sameKey key := by
  rw [get?, Option.map_eq_none_iff, List.find?_eq_none]

theorem get?_insert :
    (entries.insert key value).get? (.str name) =
      if key = .str name then some value else entries.get? (.str name) := by
  induction entries with
  | nil => simp [insert, get?]
  | cons entry entries ih =>
      obtain ⟨k, v⟩ := entry
      rw [insert]
      split
      · rename_i hsame
        by_cases hkey : key = .str name
        · subst hkey
          simp [get?_cons, hsame]
        · have hk : k ≠ .str name := by
            rintro rfl
            exact hkey (Scalar.str_sameKey_iff.mp hsame)
          simp [get?_cons, hkey, hk]
      · rename_i hsame
        rw [get?_cons, get?_cons, ih]
        by_cases hkey : key = .str name
        · subst hkey
          simp [hsame]
        · simp [hkey]

theorem insert_ne_nil : entries.insert key value ≠ [] := by
  cases entries with
  | nil => nofun
  | cons entry entries =>
      unfold insert
      split <;> nofun

/-- A filter that keeps a key keeps its value. -/
theorem get?_filter (keeps : Scalar → Bool)
    (h : ∀ other : Scalar, other.sameKey key → keeps other = true) :
    get? (List.filter (fun entry => keeps entry.1) entries) key = entries.get? key := by
  induction entries with
  | nil => rfl
  | cons entry entries ih =>
      rw [List.filter_cons]
      by_cases hkey : entry.1.sameKey key
      · simp [get?_cons, hkey, h entry.1 hkey]
      · split <;> simp [get?_cons, hkey, ih]

theorem get?_without {names : List String} (h : name ∉ names) :
    (entries.without names).get? (.str name) = entries.get? (.str name) := by
  refine get?_filter (fun key => !names.any fun other => key.sameKey (.str other)) ?_
  intro key hkey
  rw [Scalar.sameKey_str_iff] at hkey
  simp only [hkey, Bool.not_eq_true', List.any_eq_false, Scalar.sameKey_str_iff, Scalar.str.injEq]
  rintro other hother rfl
  exact h hother

theorem get?_without_of_mem {names : List String} (h : name ∈ names) :
    (entries.without names).get? (.str name) = none := by
  refine get?_eq_none_iff.mpr fun entry hentry hkey => ?_
  have hkept := List.of_mem_filter hentry
  rw [Scalar.sameKey_str_iff.mp hkey] at hkept
  have hleft : (names.any fun other => (Scalar.str name).sameKey (.str other)) = true :=
    List.any_eq_true.mpr ⟨name, h, Scalar.sameKey_str_iff.mpr rfl⟩
  simp [hleft] at hkept

/-- Leaving one key out does not touch another. -/
theorem get?_erase {other : String} (h : name ≠ other) :
    (entries.erase (.str other)).get? (.str name) = entries.get? (.str name) := by
  refine get?_filter (fun key => !key.sameKey (.str other)) ?_
  intro key hkey
  rw [Scalar.sameKey_str_iff] at hkey
  rw [hkey, Bool.not_eq_true', Bool.eq_false_iff, ne_eq, Scalar.sameKey_str_iff, Scalar.str.injEq]
  exact h

/-! Mappings that hold each key once -/

/-- Each key stands once. -/
def Distinct (entries : Entries) : Prop :=
  (entries.map (·.1)).Pairwise fun first second => ¬ first.sameKey second

instance (entries : Entries) : Decidable entries.Distinct :=
  inferInstanceAs (Decidable (List.Pairwise _ _))

theorem distinct_nil : Distinct [] := List.Pairwise.nil

theorem distinct_cons_iff {entry : Scalar × Datum} : Distinct (entry :: entries) ↔
    (∀ other ∈ entries, ¬ entry.1.sameKey other.1) ∧ Distinct entries := by
  rw [Distinct, List.map_cons, List.pairwise_cons, List.forall_mem_map, Distinct]

theorem key_of_mem_insert {entry : Scalar × Datum} (h : entry ∈ entries.insert key value) :
    entry.1 = key ∨ ∃ old ∈ entries, old.1 = entry.1 := by
  induction entries with
  | nil =>
      rw [insert, List.mem_singleton] at h
      exact .inl (congrArg Prod.fst h)
  | cons head entries ih =>
      obtain ⟨k, v⟩ := head
      rw [insert] at h
      split at h
      · rcases List.mem_cons.mp h with rfl | h
        · exact .inr ⟨(k, v), List.mem_cons_self, rfl⟩
        · exact .inr ⟨entry, List.mem_cons_of_mem _ h, rfl⟩
      · rcases List.mem_cons.mp h with rfl | h
        · exact .inr ⟨(k, v), List.mem_cons_self, rfl⟩
        · rcases ih h with hkey | ⟨old, hold, hkey⟩
          · exact .inl hkey
          · exact .inr ⟨old, List.mem_cons_of_mem _ hold, hkey⟩

theorem Distinct.insert (h : Distinct entries) (key : Scalar) (value : Datum) :
    Distinct (entries.insert key value) := by
  induction entries with
  | nil => exact List.pairwise_singleton _ _
  | cons entry entries ih =>
      obtain ⟨k, v⟩ := entry
      obtain ⟨hhead, htail⟩ := distinct_cons_iff.mp h
      rw [Entries.insert]
      split
      · exact distinct_cons_iff.mpr ⟨hhead, htail⟩
      · rename_i hkey
        refine distinct_cons_iff.mpr ⟨?_, ih htail⟩
        intro other hother
        rcases key_of_mem_insert hother with hsame | ⟨old, hold, hsame⟩
        · rw [hsame]
          exact hkey
        · rw [← hsame]
          exact hhead old hold

/-- An entry that is put in passes a test of keys or not, and the others stay as they are. -/
theorem filter_insert {keeps : Scalar → Bool}
    (h : ∀ other : Scalar, other.sameKey key → keeps other = keeps key) :
    List.filter (fun entry => keeps entry.1) (entries.insert key value) =
      if keeps key then
        insert (List.filter (fun entry => keeps entry.1) entries) key value
      else List.filter (fun entry => keeps entry.1) entries := by
  induction entries with
  | nil =>
      rw [insert, List.filter_cons]
      split <;> rfl
  | cons entry entries ih =>
      obtain ⟨k, v⟩ := entry
      rw [insert]
      by_cases hsame : k.sameKey key
      · have hk := h k hsame
        cases hkeep : keeps key <;> simp [insert, hsame, hk, hkeep]
      · cases hk : keeps k <;> cases hkeep : keeps key <;>
          simp [insert, hsame, hk, hkeep, ih]

theorem Distinct.filter (h : Distinct entries) (keeps : Scalar × Datum → Bool) :
    Distinct (List.filter keeps entries) :=
  List.Pairwise.sublist (List.filter_sublist.map _) h

/-- Of entries with distinct keys each is the one that is found under its key. -/
theorem Distinct.get?_eq_some_iff (h : Distinct entries) :
    entries.get? (.str name) = some value ↔ (.str name, value) ∈ entries := by
  induction entries with
  | nil => simp [get?]
  | cons entry entries ih =>
      obtain ⟨hhead, htail⟩ := distinct_cons_iff.mp h
      obtain ⟨k, v⟩ := entry
      rw [get?_cons, List.mem_cons, Prod.mk.injEq]
      by_cases hkey : k = .str name
      · subst hkey
        have hnot : (Scalar.str name, value) ∉ entries := fun hmem =>
          hhead _ hmem (Scalar.sameKey_str_iff.mpr rfl)
        rw [if_pos (Scalar.sameKey_str_iff.mpr rfl), Option.some.injEq]
        exact ⟨fun hvalue => .inl ⟨rfl, hvalue.symm⟩, fun hmem => (hmem.resolve_right hnot).2.symm⟩
      · rw [if_neg (mt Scalar.sameKey_str_iff.mp hkey), ih htail]
        exact (or_iff_right fun hhere => hkey hhere.1.symm).symm

theorem insert_of_notMem (h : ∀ entry ∈ entries, ¬ entry.1.sameKey key) :
    entries.insert key value = entries ++ [(key, value)] := by
  induction entries with
  | nil => rfl
  | cons entry entries ih =>
      obtain ⟨hhead, htail⟩ := List.forall_mem_cons.mp h
      rw [insert, if_neg hhead, ih htail, List.cons_append]

theorem distinct_ofList (entries : List (Scalar × Datum)) : (ofList entries).Distinct := by
  unfold ofList insertAll
  exact List.foldlRecOn entries _ distinct_nil fun _ h _ _ => h.insert _ _

theorem insertAll_of_distinct {more : Entries} (h : Distinct (entries ++ more)) :
    entries.insertAll more = entries ++ more := by
  induction more generalizing entries with
  | nil => rw [insertAll, List.foldl_nil, List.append_nil]
  | cons entry more ih =>
      have hnew : ∀ other ∈ entries, ¬ other.1.sameKey entry.1 := by
        rw [Distinct, List.map_append, List.pairwise_append] at h
        intro other hother
        exact h.2.2 _ (List.mem_map_of_mem hother) _ List.mem_cons_self
      have hshift : entries ++ entry :: more = (entries ++ [entry]) ++ more := by simp
      rw [hshift] at h ⊢
      rw [← ih h, insertAll, List.foldl_cons, insert_of_notMem hnew]
      rfl

theorem ofList_of_distinct (h : Distinct entries) : ofList entries = entries :=
  @insertAll_of_distinct [] entries h

/-! Entries whose keys may repeat -/

theorem get?_append {more : Entries} :
    get? (entries ++ more) key = (entries.get? key).or (more.get? key) := by
  rw [get?, List.find?_append, Option.map_or]
  rfl

theorem get?_insertAll (more : Entries) :
    (entries.insertAll more).get? (.str name) =
      (get? more.reverse (.str name)).or (entries.get? (.str name)) := by
  induction more generalizing entries with
  | nil => rfl
  | cons entry more ih =>
      have hstep : entries.insertAll (entry :: more) =
          (entries.insert entry.1 entry.2).insertAll more := rfl
      rw [hstep, ih, get?_insert, List.reverse_cons, get?_append, Option.or_assoc]
      by_cases hkey : entry.1 = .str name
      · simp [hkey, get?_cons]
      · simp [hkey, get?]

/-- A repeated key has its last value. -/
theorem get?_ofList (entries : List (Scalar × Datum)) :
    (ofList entries).get? (.str name) = get? entries.reverse (.str name) := by
  rw [ofList, get?_insertAll]
  exact Option.or_none

theorem Distinct.get?_reverse (h : Distinct entries) :
    get? entries.reverse (.str name) = entries.get? (.str name) := by
  rw [← get?_ofList, ofList_of_distinct h]

/-- Keys may be put another way, as long as the one that is looked up stays apart. -/
theorem get?_map (rename : Scalar → Scalar) (change : Datum → Datum)
    (h : ∀ entry ∈ entries, rename entry.1 = .str name ↔ entry.1 = .str name) :
    get? (entries.map fun entry => (rename entry.1, change entry.2)) (.str name) =
      (entries.get? (.str name)).map change := by
  induction entries with
  | nil => rfl
  | cons entry entries ih =>
      obtain ⟨hhead, htail⟩ := List.forall_mem_cons.mp h
      rw [List.map_cons, get?_cons, get?_cons, ih htail]
      simp only [Scalar.sameKey_str_iff, hhead]
      split <;> rfl

end Entries

end DeclGraph
