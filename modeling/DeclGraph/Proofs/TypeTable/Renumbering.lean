import DeclGraph.Proofs.TypeTable.Resolved

/-!
Tables that hold the same types at other slots. An expansion meets the same names in both, since it
tells slots apart and looks at their numbers in no other way.
-/

namespace DeclGraph

/-- The index of the slot that `place` gives to a slot. -/
def placeIndex (place : Nat → Nat) (index : Int) : Int := (place index.toNat : Int)

theorem placeIndex_natCast (place : Nat → Nat) (slot : Nat) :
    placeIndex place slot = (place slot : Int) := rfl

def TypeTerm.renumber (place : Nat → Nat) : TypeTerm → TypeTerm
  | .var name => .var name
  | .struct refs => .struct (refs.map (placeIndex place))

namespace TypeTable

/-- The second table holds the terms of the first at slots of their own, with their references
renumbered, and any terms without a bad reference at its other slots. -/
structure Renumbers (place : Nat → Nat) (table table' : TypeTable) : Prop where
  injective : ∀ slot < table.size, ∀ other < table.size, place slot = place other → slot = other
  moved : ∀ slot term, table[slot]? = some term →
    table'[place slot]? = some (term.renumber place)
  others : ∀ slot term, table'[slot]? = some term → (∀ old < table.size, place old ≠ slot) →
    ∀ index ∈ term.references, IsSlot table'.size index

namespace Renumbers

variable {place : Nat → Nat} {table table' : TypeTable}

theorem place_lt (h : Renumbers place table table') {slot : Nat} (hslot : slot < table.size) :
    place slot < table'.size := by
  have hget := h.moved slot table[slot] (Array.getElem?_eq_getElem hslot)
  exact (Array.getElem?_eq_some_iff.mp hget).1

theorem isSlot_placeIndex (h : Renumbers place table table') {index : Int}
    (hindex : IsSlot table.size index) : IsSlot table'.size (placeIndex place index) := by
  obtain ⟨slot, hslot, rfl⟩ := isSlot_iff.mp hindex
  exact isSlot_iff.mpr ⟨place slot, h.place_lt hslot, placeIndex_natCast place slot⟩

theorem closed (h : Renumbers place table table') (closed : table.Closed) : table'.Closed := by
  intro index hindex
  obtain ⟨slot, position, refs, hslot, href⟩ := mem_references_iff.mp hindex
  have hmem : index ∈ refs := List.mem_of_getElem? href
  by_cases hplace : ∃ old < table.size, place old = slot
  · obtain ⟨old, hold, rfl⟩ := hplace
    have hterm := Array.getElem?_eq_getElem hold
    have hmoved := h.moved old _ hterm
    rw [hslot] at hmoved
    cases hold' : table[old] with
    | var name =>
        rw [hold'] at hmoved
        cases hmoved
    | struct refs' =>
        rw [hold'] at hmoved hterm
        cases hmoved
        obtain ⟨index', hindex', rfl⟩ := List.mem_map.mp hmem
        exact h.isSlot_placeIndex (closed index' (mem_references_of_struct hterm hindex'))
  · have hother : ∀ old < table.size, place old ≠ slot := fun old hold heq => hplace ⟨old, hold, heq⟩
    exact h.others slot _ hslot hother index hmem

theorem mem_map_place_iff (h : Renumbers place table table') {visited : List Nat}
    (hvisited : ∀ slot ∈ visited, slot < table.size) {slot : Nat} (hslot : slot < table.size) :
    place slot ∈ visited.map place ↔ slot ∈ visited := by
  constructor
  · intro hmem
    obtain ⟨other, hother, heq⟩ := List.mem_map.mp hmem
    rwa [← h.injective other (hvisited other hother) slot hslot heq]
  · exact List.mem_map_of_mem

/-- Expansions of both tables go on step by step, with the slots entered in the second being those
entered in the first. -/
theorem expand_eq (h : Renumbers place table table') (closed : table.Closed) (visited : List Nat)
    (pending : List Int) (hvisited : ∀ slot ∈ visited, slot < table.size)
    (hpending : ∀ index ∈ pending, IsSlot table.size index) :
    table'.expand (visited.map place) (pending.map (placeIndex place)) =
      table.expand visited pending := by
  fun_induction expand table visited pending with
  | case1 => rw [List.map_nil, expand]
  | case2 visited index pending bad hat =>
      exact absurd (hpending index List.mem_cons_self) (atIndex_eq_error_iff.mp hat).1
  | case3 visited index pending name hat ih =>
      obtain ⟨slot, rfl, hslot⟩ := atIndex_eq_ok_iff.mp hat
      have hrest := ih hvisited fun other hother => hpending other (List.mem_cons_of_mem _ hother)
      rw [List.map_cons, placeIndex_natCast, expand_var (h.moved slot _ hslot), hrest]
  | case4 visited index pending refs hat hv ih =>
      obtain ⟨slot, rfl, hslot⟩ := atIndex_eq_ok_iff.mp hat
      have hrest := ih hvisited fun other hother => hpending other (List.mem_cons_of_mem _ hother)
      rw [List.map_cons, placeIndex_natCast,
        expand_entered (h.moved slot _ hslot) (List.mem_map_of_mem hv), hrest]
  | case5 visited index pending refs hat hv _ ih =>
      obtain ⟨slot, rfl, hslot⟩ := atIndex_eq_ok_iff.mp hat
      have hlt : slot < table.size := (Array.getElem?_eq_some_iff.mp hslot).1
      rw [Int.toNat_natCast] at hv ih ⊢
      -- The only place where the numbers of slots are compared.
      have hfresh : place slot ∉ visited.map place := mt (h.mem_map_place_iff hvisited hlt).mp hv
      have hentered : ∀ other ∈ slot :: visited, other < table.size :=
        List.forall_mem_cons.mpr ⟨hlt, hvisited⟩
      have hnext : ∀ index ∈ refs ++ pending, IsSlot table.size index := by
        refine List.forall_mem_append.mpr ⟨?_, (List.forall_mem_cons.mp hpending).2⟩
        exact fun index hindex => closed index (mem_references_of_struct hslot hindex)
      have hrest := ih hentered hnext
      rw [List.map_cons, List.map_append] at hrest
      rw [List.map_cons, placeIndex_natCast, expand_fresh (h.moved slot _ hslot) hfresh, hrest]

end Renumbers

end TypeTable

end DeclGraph
