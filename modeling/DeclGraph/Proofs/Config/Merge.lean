import DeclGraph.Config.Source
import DeclGraph.Proofs.Datum.Entries

/-!
Merged entries: what stands under a key after a higher source has overridden a lower one.
-/

namespace DeclGraph

namespace Datum

variable {low high : Datum} {lower higher : Entries}

theorem merge_map (h : low.entries? = some lower) :
    merge low (.map higher) = .map (mergeEntries lower higher) := by
  rw [merge, h]

theorem merge_of_entries?_eq_none (h : high.entries? = none) : merge low high = high := by
  rw [merge]
  rintro entries rfl
  cases h

theorem mergeEntries_cons (low : Entries) (key : Scalar) (value : Datum) (high : Entries) :
    mergeEntries low ((key, value) :: high) =
      mergeEntries (Entries.insert low key
        (match Entries.get? low key with
        | some old => merge old value
        | none => value)) high :=
  mergeEntries.eq_2 low key value high

theorem mergeEntries_eq_nil_iff {low high : Entries} :
    mergeEntries low high = [] ↔ low = [] ∧ high = [] := by
  induction high generalizing low with
  | nil => simp [mergeEntries]
  | cons entry high ih =>
      obtain ⟨key, value⟩ := entry
      simp [mergeEntries_cons, ih, Entries.insert_ne_nil]

theorem distinct_mergeEntries {low : Entries} (h : low.Distinct) (high : Entries) :
    Entries.Distinct (mergeEntries low high) := by
  induction high generalizing low with
  | nil => rwa [mergeEntries]
  | cons entry high ih =>
      rw [mergeEntries_cons]
      exact ih (h.insert _ _)

/-- Under a key stands the higher value if the lower entries have none, and else the two values
merged. -/
theorem get?_mergeEntries {high : Entries} (h : high.Distinct) (low : Entries) (name : String) :
    Entries.get? (mergeEntries low high) (.str name) =
      Option.merge merge (low.get? (.str name)) (high.get? (.str name)) := by
  induction high generalizing low with
  | nil =>
      rw [mergeEntries]
      cases low.get? (.str name) <;> rfl
  | cons entry high ih =>
      obtain ⟨key, value⟩ := entry
      obtain ⟨hhead, htail⟩ := Entries.distinct_cons_iff.mp h
      rw [mergeEntries_cons, ih htail, Entries.get?_insert, Entries.get?_cons]
      by_cases hkey : key = .str name
      · subst hkey
        -- what has just been put in is not merged once more
        have hnone : Entries.get? high (.str name) = none := by
          rw [Entries.get?_eq_none_iff]
          intro other hother hsame
          rw [Scalar.sameKey_str_iff] at hsame
          exact hhead other hother (Scalar.str_sameKey_iff.mpr hsame)
        cases hlow : low.get? (.str name) <;> simp [hnone]
      · simp [hkey]

/-- A test of keys that does not tell equal keys apart may be made before or after merging. -/
theorem filter_mergeEntries {keeps : Scalar → Bool}
    (hkeeps : ∀ first second : Scalar, first.sameKey second → keeps first = keeps second)
    (low high : Entries) :
    List.filter (fun entry => keeps entry.1) (mergeEntries low high) =
      mergeEntries (List.filter (fun entry => keeps entry.1) low)
        (List.filter (fun entry => keeps entry.1) high) := by
  induction high generalizing low with
  | nil => rw [List.filter_nil, mergeEntries, mergeEntries]
  | cons entry high ih =>
      obtain ⟨key, value⟩ := entry
      rw [mergeEntries_cons, ih, Entries.filter_insert fun other => hkeeps other key,
        List.filter_cons]
      cases hkey : keeps key with
      | true =>
          have hget : Entries.get? (List.filter (fun entry => keeps entry.1) low) key =
              Entries.get? low key :=
            Entries.get?_filter keeps fun other hother => (hkeeps other key hother).trans hkey
          simp only [if_true, mergeEntries_cons, hget]
      | false => rfl

theorem forall_mem_mergeEntries_iff {test : Scalar → Bool}
    (htest : ∀ first second : Scalar, first.sameKey second → test first = test second)
    {low high : Entries} :
    (∀ entry ∈ mergeEntries low high, test entry.1) ↔
      (∀ entry ∈ low, test entry.1) ∧ ∀ entry ∈ high, test entry.1 := by
  have hfails : ∀ entries : Entries,
      (∀ entry ∈ entries, test entry.1) ↔
        List.filter (fun entry => !test entry.1) entries = [] := by
    intro entries
    simp [List.filter_eq_nil_iff]
  have hsame : ∀ first second : Scalar, first.sameKey second → (!test first) = !test second := by
    intro first second h
    rw [htest first second h]
  rw [hfails, filter_mergeEntries hsame, mergeEntries_eq_nil_iff, hfails, hfails]

end Datum

end DeclGraph
