import DeclGraph.Proofs.TypeTable.Route
import DeclGraph.TypeTable.Resolve

/-!
The order in which an expansion meets references. Every reference at a slot that references lead
to is met once, and they are met in the order of the least paths to them.
-/

namespace DeclGraph.TypeTable

/-- A reference that an expansion meets: where it stands, and the path on which its slot was
entered. -/
structure Visit where
  path : List Nat
  slot : Nat
  position : Nat
  index : Int

/-- The path to the slot, continued by the position in it. -/
def Visit.place (visit : Visit) : List Nat := visit.path ++ [visit.position]

def Visit.IsAt (visit : Visit) (slot position : Nat) : Prop :=
  visit.slot = slot ∧ visit.position = position

def visitsAt (path : List Nat) (slot : Nat) (refs : List Int) : List Visit :=
  refs.mapIdx fun position index => ⟨path, slot, position, index⟩

theorem map_index_visitsAt (path : List Nat) (slot : Nat) (refs : List Int) :
    (visitsAt path slot refs).map Visit.index = refs := by
  apply List.ext_getElem <;> simp [visitsAt]

theorem mem_visitsAt {path : List Nat} {slot : Nat} {refs : List Int} {visit : Visit} :
    visit ∈ visitsAt path slot refs ↔
      visit.path = path ∧ visit.slot = slot ∧ refs[visit.position]? = some visit.index := by
  simp only [visitsAt, List.mem_mapIdx]
  constructor
  · rintro ⟨position, hlt, rfl⟩
    exact ⟨rfl, rfl, List.getElem?_eq_getElem hlt⟩
  · rintro ⟨rfl, rfl, href⟩
    obtain ⟨hlt, heq⟩ := List.getElem?_eq_some_iff.mp href
    exact ⟨visit.position, hlt, by rw [heq]⟩

theorem mem_visitsAt_of_refers {table : TypeTable} {path : List Nat} {slot position : Nat}
    {refs : List Int} {index : Int} (hslot : table[slot]? = some (.struct refs))
    (hrefers : table.Refers slot position index) :
    ⟨path, slot, position, index⟩ ∈ visitsAt path slot refs := by
  obtain ⟨refs', hslot', href⟩ := hrefers
  rw [hslot] at hslot'
  cases hslot'
  exact mem_visitsAt.mpr ⟨rfl, rfl, href⟩

theorem place_of_mem_visitsAt {path : List Nat} {slot : Nat} {refs : List Int} {visit : Visit}
    (h : visit ∈ visitsAt path slot refs) : visit.place = path ++ [visit.position] := by
  rw [Visit.place, (mem_visitsAt.mp h).1]

theorem pairwise_visitsAt (path : List Nat) (slot : Nat) (refs : List Int) :
    (visitsAt path slot refs).Pairwise fun x y => Forks x.place y.place := by
  rw [List.pairwise_iff_getElem]
  intro i j hi hj hij
  simp only [visitsAt, List.getElem_mapIdx, Visit.place]
  exact ⟨path, i, j, [], [], hij, rfl, rfl⟩

/-- The references of a slot that is still to be entered, if the index is one. -/
def fresh? (table : TypeTable) (visited : List Nat) (index : Int) : Option (List Int) :=
  match atIndex table index with
  | .ok (.struct refs) => if index.toNat ∈ visited then none else some refs
  | _ => none

theorem fresh?_eq_some_iff {table : TypeTable} {visited : List Nat} {index : Int}
    {refs : List Int} :
    table.fresh? visited index = some refs ↔
      ∃ slot : Nat, index = slot ∧ table[slot]? = some (.struct refs) ∧ slot ∉ visited := by
  constructor
  · intro h
    unfold fresh? at h
    split at h
    · rename_i refs' hat
      obtain ⟨slot, rfl, hslot⟩ := atIndex_eq_ok_iff.mp hat
      simp only [Int.toNat_natCast, Option.ite_none_left_eq_some, Option.some.injEq] at h
      obtain ⟨hfresh, rfl⟩ := h
      exact ⟨slot, rfl, hslot, hfresh⟩
    · cases h
  · rintro ⟨slot, rfl, hslot, hfresh⟩
    have hat := atIndex_eq_ok_iff.mpr ⟨slot, rfl, hslot⟩
    simp [fresh?, hat, hfresh]

theorem mem_visited_of_fresh?_eq_none {table : TypeTable} {visited : List Nat} {slot : Nat}
    (h : table.fresh? visited (slot : Int) = none) (hstruct : table.IsStruct slot) :
    slot ∈ visited := by
  obtain ⟨refs, hslot⟩ := hstruct
  by_contra hfresh
  rw [fresh?_eq_some_iff.mpr ⟨slot, rfl, hslot, hfresh⟩] at h
  cases h

/-- All references that an expansion meets, in order. One that is no slot is passed over here. -/
def visits (table : TypeTable) (visited : List Nat) : (pending : List Visit) → List Visit
  | [] => []
  | visit :: pending =>
    match h : table.fresh? visited visit.index with
    | none => visit :: visits table visited pending
    | some refs =>
      have : table.unvisited (visit.index.toNat :: visited) < table.unvisited visited := by
        obtain ⟨slot, hindex, hslot, hfresh⟩ := fresh?_eq_some_iff.mp h
        rw [hindex]
        exact unvisited_cons_lt (Array.getElem?_eq_some_iff.mp hslot).1 hfresh
      visit :: visits table (visit.index.toNat :: visited)
        (visitsAt visit.place visit.index.toNat refs ++ pending)
termination_by pending => (table.unvisited visited, pending.length)

/-- What a list of references contributes when structural slots contribute nothing by
themselves. -/
def contributions (table : TypeTable) : List Int → Except BadIndex (List SymbolKey)
  | [] => .ok []
  | index :: rest =>
    match atIndex table index with
    | .error bad => .error bad
    | .ok (.var name) => (name.key :: ·) <$> contributions table rest
    | .ok (.struct _) => contributions table rest

/-- The name in the slot that an index refers to, if the slot is a named one. -/
def named? (table : TypeTable) (index : Int) : Option Name :=
  match atIndex table index with
  | .ok (.var name) => some name
  | _ => none

theorem named?_eq_some_iff {table : TypeTable} {index : Int} {name : Name} :
    table.named? index = some name ↔
      ∃ slot : Nat, index = slot ∧ table[slot]? = some (.var name) := by
  rw [← atIndex_eq_ok_iff, named?]
  split
  · rename_i hat
    simp [hat]
  · rename_i hat
    constructor
    · intro h
      cases h
    · exact fun h => absurd h (hat name)

theorem contributions_eq_ok {table : TypeTable} {indices : List Int}
    (h : ∀ index ∈ indices, IsSlot table.size index) :
    table.contributions indices = .ok ((indices.filterMap table.named?).map Name.key) := by
  induction indices with
  | nil => rfl
  | cons index indices ih =>
      have hrest := ih fun other hother => h other (List.mem_cons_of_mem index hother)
      rw [contributions, List.filterMap_cons, named?]
      split
      · rename_i bad hat
        exact absurd (h index List.mem_cons_self) (atIndex_eq_error_iff.mp hat).1
      · rename_i name hat
        simp [hat, hrest]
      · rename_i refs hat
        simp [hat, hrest]

theorem refusal?_contributions (table : TypeTable) (indices : List Int) :
    refusal? (table.contributions indices) =
      indices.findSome? fun index => refusal? (atIndex table index) := by
  induction indices with
  | nil => rfl
  | cons index indices ih =>
      rw [contributions, List.findSome?_cons]
      split <;> rename_i hat <;> simp [hat, ih]

/-! Single steps of an expansion -/

section Steps

variable {table : TypeTable} {visited : List Nat} {slot : Nat} {pending : List Int}

theorem expand_var {name : Name} (h : table[slot]? = some (.var name)) :
    table.expand visited ((slot : Int) :: pending) =
      (name.key :: ·) <$> table.expand visited pending := by
  have hat := atIndex_eq_ok_iff.mpr ⟨slot, rfl, h⟩
  rw [expand]
  split <;> rename_i hat' <;> rw [hat] at hat' <;> cases hat'
  rfl

theorem expand_entered {refs : List Int} (h : table[slot]? = some (.struct refs))
    (hv : slot ∈ visited) :
    table.expand visited ((slot : Int) :: pending) = table.expand visited pending := by
  have hat := atIndex_eq_ok_iff.mpr ⟨slot, rfl, h⟩
  rw [expand]
  split <;> rename_i hat' <;> rw [hat] at hat' <;> cases hat'
  simp [hv]

theorem expand_fresh {refs : List Int} (h : table[slot]? = some (.struct refs))
    (hv : slot ∉ visited) :
    table.expand visited ((slot : Int) :: pending) =
      table.expand (slot :: visited) (refs ++ pending) := by
  have hat := atIndex_eq_ok_iff.mpr ⟨slot, rfl, h⟩
  rw [expand]
  split <;> rename_i hat' <;> rw [hat] at hat' <;> cases hat'
  simp [hv]

theorem expand_bad {index : Int} {bad : BadIndex} (h : atIndex table index = .error bad) :
    table.expand visited (index :: pending) = .error bad := by
  rw [expand]
  split <;> rename_i h' <;> rw [h] at h' <;> cases h'
  rfl

end Steps

/-- An expansion lists the contributions of the references that it meets. -/
theorem expand_eq_contributions (table : TypeTable) (visited : List Nat) (pending : List Visit) :
    table.expand visited (pending.map Visit.index) =
      table.contributions ((table.visits visited pending).map Visit.index) := by
  fun_induction visits table visited pending with
  | case1 => simp [expand, contributions]
  | case2 visited visit pending hfresh ih =>
      rw [List.map_cons, List.map_cons, contributions]
      split
      · rename_i hat
        exact expand_bad hat
      · rename_i hat
        obtain ⟨slot, hslot, hget⟩ := atIndex_eq_ok_iff.mp hat
        rw [hslot, expand_var hget, ih]
      · rename_i hat
        obtain ⟨slot, hslot, hget⟩ := atIndex_eq_ok_iff.mp hat
        rw [hslot] at hfresh
        rw [hslot, expand_entered hget (mem_visited_of_fresh?_eq_none hfresh ⟨_, hget⟩), ih]
  | case3 visited visit pending refs hfresh _ ih =>
      obtain ⟨slot, hslot, hget, hnot⟩ := fresh?_eq_some_iff.mp hfresh
      have hat : atIndex table visit.index = .ok (.struct refs) :=
        atIndex_eq_ok_iff.mpr ⟨slot, hslot, hget⟩
      rw [List.map_append, map_index_visitsAt] at ih
      rw [List.map_cons, List.map_cons, contributions, hat, ← ih, hslot, Int.toNat_natCast]
      exact expand_fresh hget hnot

end DeclGraph.TypeTable
