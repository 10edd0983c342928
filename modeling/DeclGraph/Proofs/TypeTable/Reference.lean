import DeclGraph.Proofs.Refusal
import DeclGraph.TypeTable

/-!
References of a type table: where they stand, and which of them are slots.
-/

namespace DeclGraph

/-- The index is a slot of a table with `size` slots. -/
def IsSlot (size : Nat) (index : Int) : Prop := 0 ≤ index ∧ index < size

instance (size : Nat) (index : Int) : Decidable (IsSlot size index) :=
  inferInstanceAs (Decidable (_ ∧ _))

theorem isSlot_iff {size : Nat} {index : Int} :
    IsSlot size index ↔ ∃ slot : Nat, slot < size ∧ index = slot := by
  constructor
  · rintro ⟨hnonneg, hlt⟩
    obtain ⟨slot, rfl⟩ := Int.eq_ofNat_of_zero_le hnonneg
    exact ⟨slot, Int.ofNat_lt.mp hlt, rfl⟩
  · rintro ⟨slot, hslot, rfl⟩
    exact ⟨Int.natCast_nonneg slot, Int.ofNat_lt.mpr hslot⟩

theorem atIndex_eq_ok_iff {α : Type} {slots : Array α} {index : Int} {a : α} :
    atIndex slots index = .ok a ↔ ∃ i : Nat, index = i ∧ slots[i]? = some a := by
  constructor
  · intro h
    cases index with
    | ofNat i =>
        refine ⟨i, rfl, ?_⟩
        cases hget : slots[i]? with
        | none => simp [atIndex, hget] at h
        | some b => simpa [atIndex, hget] using h
    | negSucc i => simp [atIndex] at h
  · rintro ⟨i, rfl, hget⟩
    show atIndex slots (.ofNat i) = .ok a
    simp [atIndex, hget]

theorem atIndex_eq_error_iff {α : Type} {slots : Array α} {index : Int} {bad : BadIndex} :
    atIndex slots index = .error bad ↔
      ¬ IsSlot slots.size index ∧ bad = ⟨index, slots.size⟩ := by
  cases index with
  | ofNat i =>
      by_cases hi : i < slots.size
      · simp [atIndex, IsSlot, hi]
      · simp [atIndex, IsSlot, hi, eq_comm]
  | negSucc i => simp [atIndex, IsSlot, eq_comm]

theorem refusal?_atIndex {α : Type} (slots : Array α) (index : Int) :
    refusal? (atIndex slots index) =
      if IsSlot slots.size index then none else some ⟨index, slots.size⟩ := by
  cases hat : atIndex slots index with
  | error bad =>
      obtain ⟨hindex, rfl⟩ := atIndex_eq_error_iff.mp hat
      simp [hindex]
  | ok a =>
      obtain ⟨slot, rfl, hslot⟩ := atIndex_eq_ok_iff.mp hat
      obtain ⟨hlt, -⟩ := Array.getElem?_eq_some_iff.mp hslot
      simp [IsSlot, hlt]

theorem atIndex_map {α β : Type} (f : α → β) (slots : Array α) (index : Int) :
    atIndex (slots.map f) index = f <$> atIndex slots index := by
  cases index with
  | ofNat slot =>
      simp only [atIndex, Array.getElem?_map, Array.size_map]
      cases slots[slot]? <;> rfl
  | negSucc slot =>
      simp only [atIndex, Array.size_map]
      rfl

/-- The references that a term holds, in order. -/
def TypeTerm.references : TypeTerm → List Int
  | .var _ => []
  | .struct refs => refs

namespace TypeTable

/-- All references inside a table, slot by slot. -/
def references (table : TypeTable) : List Int := table.toList.flatMap TypeTerm.references

/-- Every reference inside the table is one of its slots. -/
def Closed (table : TypeTable) : Prop := ∀ index ∈ table.references, IsSlot table.size index

instance (table : TypeTable) : Decidable table.Closed :=
  inferInstanceAs (Decidable (∀ index ∈ table.references, IsSlot table.size index))

def IsStruct (table : TypeTable) (slot : Nat) : Prop := ∃ refs, table[slot]? = some (.struct refs)

/-- A position of the structural slot `slot` holds the reference `index`. -/
def Refers (table : TypeTable) (slot position : Nat) (index : Int) : Prop :=
  ∃ refs, table[slot]? = some (.struct refs) ∧ refs[position]? = some index

variable {table : TypeTable}

theorem Refers.isStruct {slot position : Nat} {index : Int}
    (h : table.Refers slot position index) : table.IsStruct slot := by
  obtain ⟨refs, hrefs, -⟩ := h
  exact ⟨refs, hrefs⟩

theorem Refers.index_unique {slot position : Nat} {index other : Int}
    (h : table.Refers slot position index) (h' : table.Refers slot position other) :
    index = other := by
  obtain ⟨refs, hslot, href⟩ := h
  obtain ⟨refs', hslot', href'⟩ := h'
  rw [hslot] at hslot'
  cases hslot'
  rw [href] at href'
  cases href'
  rfl

theorem mem_references_of_struct {slot : Nat} {refs : List Int} {index : Int}
    (hslot : table[slot]? = some (.struct refs)) (hindex : index ∈ refs) :
    index ∈ table.references := by
  have hterm : TypeTerm.struct refs ∈ table.toList :=
    Array.mem_toList_iff.mpr (Array.mem_of_getElem? hslot)
  exact List.mem_flatMap.mpr ⟨_, hterm, hindex⟩

theorem mem_references_iff {index : Int} :
    index ∈ table.references ↔ ∃ slot position, table.Refers slot position index := by
  constructor
  · intro h
    obtain ⟨term, hterm, hindex⟩ := List.mem_flatMap.mp h
    cases term with
    | var name => cases hindex
    | struct refs =>
        obtain ⟨slot, hslot⟩ := List.getElem?_of_mem hterm
        obtain ⟨position, hposition⟩ := List.getElem?_of_mem hindex
        exact ⟨slot, position, refs, by simpa using hslot, hposition⟩
  · rintro ⟨slot, position, refs, hslot, href⟩
    exact mem_references_of_struct hslot (List.mem_of_getElem? href)

end TypeTable

end DeclGraph
