import DeclGraph.Fault
import DeclGraph.Proofs.TypeTable.Listing

/-!
Tables that are refused, without an expansion: the bad reference that is reported stands on the
least path from the first slot that leads to one.
-/

namespace DeclGraph

theorem exists_first_of_findSome? {α β : Type} {r : α → α → Prop} {f : α → Option β} {as : List α}
    {b : β} (hsorted : as.Pairwise r) (h : as.findSome? f = some b) :
    ∃ a ∈ as, f a = some b ∧ ∀ other ∈ as, f other ≠ none → other = a ∨ r a other := by
  obtain ⟨before, a, after, rfl, ha, hbefore⟩ := List.findSome?_eq_some_iff.mp h
  refine ⟨a, by simp, ha, ?_⟩
  intro other hother hsome
  rcases List.mem_append.mp hother with hearlier | hlater
  · exact absurd (hbefore other hearlier) hsome
  · rcases List.mem_cons.mp hlater with rfl | hlater
    · exact .inl rfl
    · have htail := (List.pairwise_append.mp hsorted).2.1
      exact .inr ((List.pairwise_cons.mp htail).1 other hlater)

namespace TypeTable

/-- From `start` references lead to an occurrence that refers to no slot. -/
structure LeadsToBad (table : TypeTable) (start : Nat) (occurrence : Occurrence) (index : Int) :
    Prop where
  reachable : table.Reachable start occurrence.slot
  refers : table.Refers occurrence.slot occurrence.position index
  outside : ¬ IsSlot table.size index

/-- The slots that lead to a bad reference. -/
def badStarts (table : TypeTable) : Set Nat :=
  {start | ∃ occurrence index, table.LeadsToBad start occurrence index}

/-- The least path to the slot of an occurrence, continued by its position. -/
def IsPlace (table : TypeTable) (start : Nat) (occurrence : Occurrence) (place : List Nat) : Prop :=
  ∃ path, IsLeast (table.simplePaths start occurrence.slot) path ∧
    place = path ++ [occurrence.position]

/-- The places of the bad references that a slot leads to. -/
def badPlaces (table : TypeTable) (start : Nat) : Set (List Nat) :=
  {place | ∃ occurrence index, table.LeadsToBad start occurrence index ∧
    table.IsPlace start occurrence place}

/-- The index stands at the least place that the first slot with a bad reference leads to. -/
def IsFirstBad (table : TypeTable) (index : Int) : Prop :=
  ∃ start occurrence place, IsLeast table.badStarts start ∧
    IsLeast (table.badPlaces start) place ∧ table.LeadsToBad start occurrence index ∧
    table.IsPlace start occurrence place

variable {table : TypeTable}

/-! The description determines the reference -/

theorem IsPlace.unique {start : Nat} {occurrence other : Occurrence} {place : List Nat}
    (h : table.IsPlace start occurrence place) (h' : table.IsPlace start other place) :
    occurrence = other := by
  obtain ⟨path, ⟨⟨slots, hroute, -⟩, -⟩, hplace⟩ := h
  obtain ⟨path', ⟨⟨slots', hroute', -⟩, -⟩, hplace'⟩ := h'
  rw [hplace] at hplace'
  obtain ⟨rfl, hposition⟩ := List.append_inj' hplace' rfl
  have hslot := (hroute.eq_of_path hroute').2
  rw [List.singleton_inj] at hposition
  cases occurrence
  cases other
  cases hslot
  cases hposition
  rfl

theorem IsFirstBad.unique {index other : Int} (h : table.IsFirstBad index)
    (h' : table.IsFirstBad other) : index = other := by
  obtain ⟨start, occurrence, place, hstart, hleast, hbad, hplace⟩ := h
  obtain ⟨start', occurrence', place', hstart', hleast', hbad', hplace'⟩ := h'
  obtain rfl := hstart.unique hstart'
  obtain rfl := hleast.unique hleast'
  obtain rfl := hplace.unique hplace'
  exact hbad.refers.index_unique hbad'.refers

/-! What an expansion is refused for -/

theorem LeadsToBad.isStruct {start : Nat} {occurrence : Occurrence} {index : Int}
    (h : table.LeadsToBad start occurrence index) : table.IsStruct start := by
  rcases h.reachable.cases_head with hsame | ⟨_, ⟨_, hrefers⟩, -⟩
  · rw [hsame]
    exact h.refers.isStruct
  · exact hrefers.isStruct

theorem refusal?_resolveSlot_struct {slot : Nat} {refs : List Int}
    (hslot : table[slot]? = some (.struct refs)) :
    refusal? (table.resolveSlot slot) =
      (table.slotVisits slot refs).findSome? fun visit => refusal? (atIndex table visit.index) := by
  rw [resolveSlot_struct hslot, refusal?_contributions, List.findSome?_map]
  rfl

theorem refusal?_atIndex_ne_none_iff {index : Int} :
    refusal? (atIndex table index) ≠ none ↔ ¬ IsSlot table.size index := by
  rw [refusal?_atIndex]
  split <;> simp_all

section Slot

variable {slot : Nat} {refs : List Int}

theorem leadsToBad_of_mem_slotVisits (hslot : table[slot]? = some (.struct refs)) {visit : Visit}
    (hvisit : visit ∈ table.slotVisits slot refs) (hbad : ¬ IsSlot table.size visit.index) :
    table.LeadsToBad slot ⟨visit.slot, visit.position⟩ visit.index ∧
      table.IsPlace slot ⟨visit.slot, visit.position⟩ visit.place := by
  obtain ⟨hleast, hrefers⟩ := least_of_mem_slotVisits hslot visit hvisit
  exact ⟨⟨reachable_of_mem_simplePaths hleast.1, hrefers, hbad⟩, visit.path, hleast, rfl⟩

theorem LeadsToBad.exists_visit (hslot : table[slot]? = some (.struct refs))
    {occurrence : Occurrence} {index : Int} (h : table.LeadsToBad slot occurrence index) :
    ∃ visit ∈ table.slotVisits slot refs, ¬ IsSlot table.size visit.index ∧
      ∀ place, table.IsPlace slot occurrence place → visit.place = place := by
  obtain ⟨visit, hvisit, hsame, hposition, rfl⟩ :=
    exists_mem_slotVisits hslot h.reachable h.refers
  refine ⟨visit, hvisit, h.outside, ?_⟩
  rintro place ⟨path, hpath, rfl⟩
  have hleast := (least_of_mem_slotVisits hslot visit hvisit).1
  rw [hsame] at hleast
  rw [Visit.place, hleast.unique hpath, hposition]

end Slot

theorem refusal?_resolveSlot_ne_none_iff {slot : Nat} (hlt : slot < table.size) :
    refusal? (table.resolveSlot slot) ≠ none ↔ slot ∈ table.badStarts := by
  have hget : table[slot]? = some table[slot] := Array.getElem?_eq_getElem hlt
  cases hterm : table[slot] with
  | var name =>
      rw [hterm] at hget
      rw [resolveSlot_var hget, refusal?_ok]
      refine ⟨fun h => absurd rfl h, ?_⟩
      rintro ⟨occurrence, index, hbad⟩
      obtain ⟨refs, hrefs⟩ := hbad.isStruct
      rw [hget] at hrefs
      cases hrefs
  | struct refs =>
      rw [hterm] at hget
      rw [refusal?_resolveSlot_struct hget, ne_eq, List.findSome?_eq_none_iff]
      push Not
      simp only [refusal?_atIndex_ne_none_iff]
      constructor
      · rintro ⟨visit, hvisit, hbad⟩
        exact ⟨_, _, (leadsToBad_of_mem_slotVisits hget hvisit hbad).1⟩
      · rintro ⟨occurrence, index, hbad⟩
        obtain ⟨visit, hvisit, hout, -⟩ := hbad.exists_visit hget
        exact ⟨visit, hvisit, hout⟩

/-- A slot is refused for the bad reference at the least place that it leads to. -/
theorem exists_least_of_refusal?_resolveSlot {slot : Nat} {bad : BadIndex} (hlt : slot < table.size)
    (h : refusal? (table.resolveSlot slot) = some bad) :
    bad.size = table.size ∧ ∃ occurrence place, IsLeast (table.badPlaces slot) place ∧
      table.LeadsToBad slot occurrence bad.index ∧ table.IsPlace slot occurrence place := by
  have hstart : slot ∈ table.badStarts := by
    rw [← refusal?_resolveSlot_ne_none_iff hlt, h]
    exact Option.some_ne_none bad
  obtain ⟨occurrence, index, hleads⟩ := hstart
  obtain ⟨refs, hget⟩ := hleads.isStruct
  rw [refusal?_resolveSlot_struct hget] at h
  obtain ⟨visit, hvisit, hreport, hfirst⟩ :=
    exists_first_of_findSome? (pairwise_slotVisits hget) h
  obtain ⟨hout, rfl⟩ := atIndex_eq_error_iff.mp (refusal?_eq_some_iff.mp hreport)
  obtain ⟨hbad, hplace⟩ := leadsToBad_of_mem_slotVisits hget hvisit hout
  refine ⟨rfl, _, _, ⟨⟨_, _, hbad, hplace⟩, ?_⟩, hbad, hplace⟩
  rintro place ⟨other, otherIndex, hother, hotherPlace⟩
  obtain ⟨otherVisit, hmem, houtside, hsame⟩ := hother.exists_visit hget
  rw [← hsame place hotherPlace]
  rcases hfirst otherVisit hmem (refusal?_atIndex_ne_none_iff.mpr houtside) with rfl | hltPlace
  · exact le_refl _
  · exact hltPlace.le

/-! Whole tables -/

theorem isFirstBad_of_resolve_eq_error {bad : BadIndex} (h : table.resolve = .error bad) :
    bad.size = table.size ∧ table.IsFirstBad bad.index := by
  rw [← refusal?_eq_some_iff, refusal?_resolve] at h
  obtain ⟨start, hrange, hreport, hfirst⟩ := exists_first_of_findSome? List.pairwise_lt_range h
  have hlt : start < table.size := List.mem_range.mp hrange
  obtain ⟨hsize, occurrence, place, hleast, hbad, hplace⟩ :=
    exists_least_of_refusal?_resolveSlot hlt hreport
  refine ⟨hsize, start, occurrence, place, ⟨⟨_, _, hbad⟩, ?_⟩, hleast, hbad, hplace⟩
  intro other hother
  obtain ⟨otherOccurrence, otherIndex, hotherBad⟩ := hother
  obtain ⟨refs, hget⟩ := hotherBad.isStruct
  have hotherLt : other < table.size := (Array.getElem?_eq_some_iff.mp hget).1
  have hrefused := (refusal?_resolveSlot_ne_none_iff hotherLt).mpr ⟨_, _, hotherBad⟩
  rcases hfirst other (List.mem_range.mpr hotherLt) hrefused with rfl | hlater
  · exact le_refl _
  · exact hlater.le

theorem resolve_eq_error_iff {bad : BadIndex} :
    table.resolve = .error bad ↔ bad.size = table.size ∧ table.IsFirstBad bad.index := by
  refine ⟨isFirstBad_of_resolve_eq_error, ?_⟩
  rintro ⟨hsize, hfirst⟩
  have ⟨_, _, _, _, _, hbad, _⟩ := hfirst
  have hopen : ¬ table.Closed := fun closed =>
    hbad.outside (closed _ (mem_references_iff.mpr ⟨_, _, hbad.refers⟩))
  cases hresolve : table.resolve with
  | ok resolved => exact absurd (closed_of_resolve_eq_ok hresolve) hopen
  | error other =>
      obtain ⟨hotherSize, hotherFirst⟩ := isFirstBad_of_resolve_eq_error hresolve
      cases bad
      cases other
      cases hfirst.unique hotherFirst
      cases hsize
      cases hotherSize
      rfl

/-- A table is refused for a reference inside it that is no slot, the first on the way from the
first slot that leads to one; any other table has one list of keys a slot. -/
theorem resolve_refuses_firstBad (table : TypeTable) :
    ((∃ bad, table.resolve = .error bad) ↔
      ∃ slot position index, table.Refers slot position index ∧
        (index < 0 ∨ (table.size : Int) ≤ index)) ∧
    (∀ resolved, table.resolve = .ok resolved → resolved.size = table.size) ∧
    (∀ bad, table.resolve = .error bad ↔ bad.size = table.size ∧ table.IsFirstBad bad.index) ∧
    ∀ bad, table.resolve = .error bad →
      (FaultCause.ofBadIndex bad).fault.code = .typeIndexOutside ∧
        (FaultCause.ofBadIndex bad).fault.details =
          [(.str "index", .int bad.index), (.str "size", .int table.size)] := by
  have houtside : ∀ index, ¬ IsSlot table.size index ↔ index < 0 ∨ (table.size : Int) ≤ index := by
    intro index
    rw [IsSlot]
    omega
  refine ⟨?_, fun _ h => (resolve_eq_ok_iff.mp h).1, fun _ => resolve_eq_error_iff, ?_⟩
  · constructor
    · rintro ⟨bad, hbad⟩
      obtain ⟨hmem, hout, -⟩ := mem_references_of_resolve_eq_error hbad
      obtain ⟨slot, position, hrefers⟩ := mem_references_iff.mp hmem
      exact ⟨slot, position, bad.index, hrefers, (houtside _).mp hout⟩
    · rintro ⟨slot, position, index, hrefers, hout⟩
      cases hresolve : table.resolve with
      | error bad => exact ⟨bad, rfl⟩
      | ok resolved =>
          have closed := closed_of_resolve_eq_ok hresolve
          exact absurd (closed index (mem_references_iff.mpr ⟨_, _, hrefers⟩))
            ((houtside index).mpr hout)
  · intro bad hbad
    obtain ⟨hsize, -⟩ := resolve_eq_error_iff.mp hbad
    refine ⟨rfl, ?_⟩
    rw [← hsize]
    rfl

-- The bad reference of slot 2 is met on the way from slot 0, before the one that slot 0 holds.
example : resolve #[.struct [1, 9], .struct [0, 2, -1], .struct [1, 7]] = .error ⟨7, 3⟩ := by cbv

end TypeTable

end DeclGraph
