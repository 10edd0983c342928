import DeclGraph.Proofs.TypeTable.Frontier

/-!
What a resolved table holds, and when a table is refused: the references that the expansion of each
slot meets decide both.
-/

namespace DeclGraph.TypeTable

variable {table : TypeTable}

theorem resolveSlot_var {slot : Nat} {name : Name} (hslot : table[slot]? = some (.var name)) :
    table.resolveSlot slot = .ok [name.key] := by
  rw [resolveSlot, expand_var hslot, expand]
  rfl

/-- The references that the expansion of a structural slot meets. -/
def slotVisits (table : TypeTable) (slot : Nat) (refs : List Int) : List Visit :=
  table.visits [slot] (visitsAt [] slot refs)

theorem resolveSlot_struct {slot : Nat} {refs : List Int}
    (hslot : table[slot]? = some (.struct refs)) :
    table.resolveSlot slot = table.contributions ((table.slotVisits slot refs).map Visit.index) := by
  rw [slotVisits, ← expand_eq_contributions, map_index_visitsAt, resolveSlot,
    expand_fresh hslot List.not_mem_nil, List.append_nil]

section SlotVisits

variable {slot : Nat} {refs : List Int}

theorem least_of_mem_slotVisits (hslot : table[slot]? = some (.struct refs)) :
    ∀ visit ∈ table.slotVisits slot refs,
      IsLeast (table.simplePaths slot visit.slot) visit.path ∧
        table.Refers visit.slot visit.position visit.index :=
  fun _ hvisit => (Frontier.first hslot).least_of_mem_visits hvisit

theorem exists_mem_slotVisits (hslot : table[slot]? = some (.struct refs)) {reached position : Nat}
    {index : Int} (hreach : table.Reachable slot reached)
    (hrefers : table.Refers reached position index) :
    ∃ visit ∈ table.slotVisits slot refs,
      visit.slot = reached ∧ visit.position = position ∧ visit.index = index := by
  have hfirst := Frontier.first hslot
  rcases hfirst.mem_visits_or_met hreach hrefers with
    ⟨visit, hvisit, rfl, rfl⟩ | ⟨hreached, hmet⟩
  · exact ⟨visit, hvisit, rfl, rfl,
      (least_of_mem_slotVisits hslot visit hvisit).2.index_unique hrefers⟩
  · rw [List.mem_singleton] at hreached
    subst hreached
    exact absurd ⟨rfl, rfl⟩ (hmet _ (mem_visitsAt_of_refers hslot hrefers))

theorem pairwise_slotVisits (hslot : table[slot]? = some (.struct refs)) :
    (table.slotVisits slot refs).Pairwise fun x y => x.place < y.place :=
  (Frontier.first hslot).pairwise_visits

end SlotVisits

/-! Whole tables -/

theorem resolve_eq_ok_iff {resolved : Array (List SymbolKey)} :
    table.resolve = .ok resolved ↔ resolved.size = table.size ∧
      ∀ slot < table.size, ∃ keys, resolved[slot]? = some keys ∧
        table.resolveSlot slot = .ok keys := by
  rw [resolve, map_eq_ok_iff]
  simp only [mapM_eq_ok_iff, List.forall₂_iff_get]
  constructor
  · rintro ⟨results, ⟨hlength, hresults⟩, rfl⟩
    rw [List.length_range] at hlength
    refine ⟨by simp [hlength], ?_⟩
    intro slot hslot
    have hresult := hresults slot (by simpa using hslot) (by omega)
    simp only [List.get_eq_getElem, List.getElem_range] at hresult
    exact ⟨_, by simp [← hlength, hslot], hresult⟩
  · rintro ⟨hsize, hresults⟩
    refine ⟨resolved.toList, ⟨by simp [hsize], ?_⟩, by simp⟩
    intro slot hrange _
    obtain ⟨keys, hget, hkeys⟩ := hresults slot (by simpa using hrange)
    obtain ⟨hlt, heq⟩ := Array.getElem?_eq_some_iff.mp hget
    simpa [heq] using hkeys

theorem refusal?_resolve (table : TypeTable) :
    refusal? table.resolve =
      (List.range table.size).findSome? fun slot => refusal? (table.resolveSlot slot) := by
  rw [resolve, refusal?_map, refusal?_mapM]

/-- The reference that a table is refused for is one inside it that is no slot. -/
theorem mem_references_of_resolve_eq_error {bad : BadIndex} (h : table.resolve = .error bad) :
    bad.index ∈ table.references ∧ ¬ IsSlot table.size bad.index ∧ bad.size = table.size := by
  rw [← refusal?_eq_some_iff, refusal?_resolve] at h
  obtain ⟨slot, hrange, hslot⟩ := List.exists_of_findSome?_eq_some h
  have hlt : slot < table.size := List.mem_range.mp hrange
  have hget : table[slot]? = some table[slot] := Array.getElem?_eq_getElem hlt
  cases hterm : table[slot] with
  | var name =>
      rw [hterm] at hget
      rw [resolveSlot_var hget] at hslot
      cases hslot
  | struct refs =>
      rw [hterm] at hget
      rw [resolveSlot_struct hget, refusal?_contributions] at hslot
      obtain ⟨index, hindex, hbad⟩ := List.exists_of_findSome?_eq_some hslot
      obtain ⟨hnot, rfl⟩ := atIndex_eq_error_iff.mp (refusal?_eq_some_iff.mp hbad)
      obtain ⟨visit, hvisit, rfl⟩ := List.mem_map.mp hindex
      have hrefers := (least_of_mem_slotVisits hget visit hvisit).2
      exact ⟨mem_references_iff.mpr ⟨_, _, hrefers⟩, hnot, rfl⟩

/-- No reference is overlooked, since every slot is expanded and meets its own references. -/
theorem closed_of_resolve_eq_ok {resolved : Array (List SymbolKey)}
    (h : table.resolve = .ok resolved) : table.Closed := by
  intro index hindex
  obtain ⟨slot, position, hrefers⟩ := mem_references_iff.mp hindex
  obtain ⟨refs, hslot⟩ := hrefers.isStruct
  obtain ⟨visit, hvisit, -, -, rfl⟩ := exists_mem_slotVisits hslot .refl hrefers
  have hlt : slot < table.size := (Array.getElem?_eq_some_iff.mp hslot).1
  obtain ⟨keys, -, hkeys⟩ := (resolve_eq_ok_iff.mp h).2 slot hlt
  rw [resolveSlot_struct hslot] at hkeys
  have hnone := refusal?_eq_none_iff.mpr ⟨keys, hkeys⟩
  rw [refusal?_contributions, List.findSome?_eq_none_iff] at hnone
  have hvisitOk := hnone visit.index (List.mem_map_of_mem hvisit)
  by_contra hnot
  simp [refusal?_atIndex, hnot] at hvisitOk

theorem exists_resolve_eq_ok_iff : (∃ resolved, table.resolve = .ok resolved) ↔ table.Closed := by
  constructor
  · rintro ⟨resolved, hresolved⟩
    exact closed_of_resolve_eq_ok hresolved
  · intro closed
    cases hresolve : table.resolve with
    | ok resolved => exact ⟨resolved, rfl⟩
    | error bad =>
        obtain ⟨hmem, hnot, -⟩ := mem_references_of_resolve_eq_error hresolve
        exact absurd (closed _ hmem) hnot

end DeclGraph.TypeTable
