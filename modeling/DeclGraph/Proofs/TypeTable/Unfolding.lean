import Mathlib.Data.Set.Card
import DeclGraph.Proofs.TypeTable.Parts

/-!
Types that are trees. No slot has to be remembered to unfold them.
-/

namespace DeclGraph.TypeTable

/-- From the slot there is at most one way to each structural slot. References at different
positions of a slot are different ways, also when they are equal. -/
def IsTree (table : TypeTable) (start : Nat) : Prop :=
  ∀ slot, table.IsStruct slot → ∀ path slots path' slots',
    Route table start path slots slot → Route table start path' slots' slot → path = path'

/-- What the indices stand for when no slot is remembered. There is no result below a slot that
leads back to itself. -/
inductive Unfolds (table : TypeTable) : List Int → List SymbolKey → Prop where
  | nil : Unfolds table [] []
  | var {index : Int} {name : Name} {rest : List Int} {keys : List SymbolKey}
      (hat : atIndex table index = .ok (.var name)) (later : Unfolds table rest keys) :
      Unfolds table (index :: rest) (name.key :: keys)
  | struct {index : Int} {refs rest : List Int} {inside keys : List SymbolKey}
      (hat : atIndex table index = .ok (.struct refs)) (below : Unfolds table refs inside)
      (later : Unfolds table rest keys) : Unfolds table (index :: rest) (inside ++ keys)

variable {table : TypeTable}

/-! Trees -/

theorem isTree_of_var {slot : Nat} {name : Name} (hslot : table[slot]? = some (.var name)) :
    table.IsTree slot := by
  have hstay : ∀ {path slots last}, Route table slot path slots last → path = [] := by
    intro path slots last hroute
    cases hroute with
    | stay => rfl
    | step refers _ =>
        obtain ⟨refs, hrefs⟩ := refers.isStruct
        rw [hslot] at hrefs
        cases hrefs
  intro last _ path slots path' slots' hroute hroute'
  rw [hstay hroute, hstay hroute']

theorem IsTree.partsApart {slot : Nat} {refs : List Int} (h : table.IsTree slot)
    (hslot : table[slot]? = some (.struct refs)) : table.PartsApart slot refs := by
  constructor
  case disjoint =>
    rw [List.pairwise_iff_getElem]
    rintro i j hi hj hlt shared ⟨hshared, next, hnext, hreach⟩ ⟨-, next', hnext', hreach'⟩
    obtain ⟨path, slots, hroute⟩ := hreach.exists_route
    obtain ⟨path', slots', hroute'⟩ := hreach'.exists_route
    have hrefers : table.Refers slot i next := ⟨refs, hslot, hnext ▸ List.getElem?_eq_getElem hi⟩
    have hrefers' : table.Refers slot j next' := ⟨refs, hslot, hnext' ▸ List.getElem?_eq_getElem hj⟩
    have hsame := h shared hshared _ _ _ _ (.step hrefers hroute) (.step hrefers' hroute')
    exact hlt.ne (List.cons_eq_cons.mp hsame).1
  case fresh =>
    rintro index hindex ⟨hstruct, next, rfl, hreach⟩
    obtain ⟨position, hposition⟩ := List.getElem?_of_mem hindex
    obtain ⟨path, slots, hroute⟩ := hreach.exists_route
    have hrefers : table.Refers slot position next := ⟨refs, hslot, hposition⟩
    have hsame := h slot hstruct _ _ _ _ (.stay slot) (.step hrefers hroute)
    cases hsame

theorem IsTree.part {slot next : Nat} {refs : List Int} (h : table.IsTree slot)
    (hslot : table[slot]? = some (.struct refs)) (hnext : (next : Int) ∈ refs) :
    table.IsTree next := by
  obtain ⟨position, hposition⟩ := List.getElem?_of_mem hnext
  have hrefers : table.Refers slot position next := ⟨refs, hslot, hposition⟩
  intro last hlast path slots path' slots' hroute hroute'
  have hsame := h last hlast _ _ _ _ (.step hrefers hroute) (.step hrefers hroute')
  exact (List.cons_eq_cons.mp hsame).2

theorem PartsApart.position_eq {slot : Nat} {refs : List Int} (h : table.PartsApart slot refs)
    {i j : Nat} {index other : Int} (hindex : refs[i]? = some index)
    (hother : refs[j]? = some other) {shared : Nat} (henters : table.Enters index shared)
    (henters' : table.Enters other shared) : i = j := by
  obtain ⟨hi, rfl⟩ := List.getElem?_eq_some_iff.mp hindex
  obtain ⟨hj, rfl⟩ := List.getElem?_eq_some_iff.mp hother
  have hdisjoint := List.pairwise_iff_getElem.mp h.disjoint
  rcases lt_trichotomy i j with hlt | heq | hlt
  · exact absurd henters' (hdisjoint i j hi hj hlt shared henters)
  · exact heq
  · exact absurd henters (hdisjoint j i hj hi hlt shared henters')

/-- A structural slot whose parts are trees apart from each other is a tree. -/
theorem isTree_of_parts {slot : Nat} {refs : List Int} (hslot : table[slot]? = some (.struct refs))
    (apart : table.PartsApart slot refs) (htrees : ∀ index ∈ refs, table.IsTree index.toNat) :
    table.IsTree slot := by
  have hpart : ∀ {position next : Nat}, table.Refers slot position next →
      refs[position]? = some (next : Int) := by
    rintro position next ⟨refs', hslot', hposition⟩
    rw [hslot] at hslot'
    cases hslot'
    exact hposition
  have hback : ∀ {position next : Nat} {path slots : List Nat}, table.Refers slot position next →
      ¬ Route table next path slots slot := by
    intro position next path slots refers rest
    have hmem := List.mem_of_getElem? (hpart refers)
    exact apart.fresh _ hmem ⟨⟨refs, hslot⟩, next, rfl, rest.reachable⟩
  intro last hlast path slots path' slots' hroute hroute'
  cases hroute with
  | stay =>
      cases hroute' with
      | stay => rfl
      | step refers rest => exact absurd rest (hback refers)
  | step refers rest =>
      cases hroute' with
      | stay => exact absurd rest (hback refers)
      | step refers' rest' =>
          have henters : table.Enters _ last := ⟨hlast, _, rfl, rest.reachable⟩
          have henters' : table.Enters _ last := ⟨hlast, _, rfl, rest'.reachable⟩
          obtain rfl := apart.position_eq (hpart refers) (hpart refers') henters henters'
          obtain rfl := Int.ofNat_inj.mp (refers.index_unique refers')
          have htree := htrees _ (List.mem_of_getElem? (hpart refers))
          rw [Int.toNat_natCast] at htree
          rw [htree last hlast _ _ _ _ rest rest']

/-! Unfolding -/

theorem Unfolds.cons {index : Int} {rest : List Int} {part keys : List SymbolKey}
    (h : table.Unfolds [index] part) (hrest : table.Unfolds rest keys) :
    table.Unfolds (index :: rest) (part ++ keys) := by
  cases h with
  | var hat later =>
      cases later
      exact .var hat hrest
  | struct hat below later =>
      cases later
      rw [List.append_nil]
      exact .struct hat below hrest

theorem unfolds_flatten {refs : List Int} {parts : List (List SymbolKey)}
    (h : List.Forall₂ (fun index part => table.Unfolds [index] part) refs parts) :
    table.Unfolds refs parts.flatten := by
  induction h with
  | nil => exact .nil
  | cons hpart _ ih => exact hpart.cons ih

theorem Unfolds.unique {pending : List Int} {keys keys' : List SymbolKey}
    (h : table.Unfolds pending keys) (h' : table.Unfolds pending keys') : keys = keys' := by
  induction h generalizing keys' with
  | nil =>
      cases h'
      rfl
  | var hat later ih =>
      cases h' with
      | var hat' later' =>
          rw [hat] at hat'
          cases hat'
          rw [ih later']
      | struct hat' below' later' =>
          rw [hat] at hat'
          cases hat'
  | struct hat below later ihBelow ih =>
      cases h' with
      | var hat' later' =>
          rw [hat] at hat'
          cases hat'
      | struct hat' below' later' =>
          rw [hat] at hat'
          cases hat'
          rw [ihBelow below', ih later']

theorem finite_enters (table : TypeTable) (slot : Nat) :
    {entered | table.Enters slot entered}.Finite := by
  apply (Set.finite_lt_nat table.size).subset
  rintro entered ⟨⟨refs, hrefs⟩, -⟩
  exact (Array.getElem?_eq_some_iff.mp hrefs).1

/-- Fewer slots are entered from a part than from the whole. -/
theorem PartsApart.ncard_enters_lt {slot next : Nat} {refs : List Int}
    (h : table.PartsApart slot refs) (hslot : table[slot]? = some (.struct refs))
    (hnext : (next : Int) ∈ refs) :
    {entered | table.Enters next entered}.ncard < {entered | table.Enters slot entered}.ncard := by
  apply Set.ncard_lt_ncard _ (finite_enters table slot)
  refine ⟨fun entered hentered => hentered.of_ref hslot hnext, ?_⟩
  intro hsub
  exact h.fresh _ hnext (hsub (enters_self ⟨refs, hslot⟩))

theorem IsTree.unfolds (closed : table.Closed) {slot : Nat} {keys : List SymbolKey}
    (h : table.IsTree slot) (hkeys : table.resolveSlot slot = .ok keys) :
    table.Unfolds [(slot : Int)] keys := by
  induction hcard : {entered | table.Enters slot entered}.ncard using Nat.strong_induction_on
    generalizing slot keys with
  | _ n ih =>
      cases hterm : table[slot]? with
      | none =>
          have hbad : atIndex table (slot : Int) = .error ⟨slot, table.size⟩ := by
            apply atIndex_eq_error_iff.mpr
            simpa [IsSlot] using hterm
          rw [resolveSlot, expand_bad hbad] at hkeys
          cases hkeys
      | some term =>
          have hat := atIndex_eq_ok_iff.mpr ⟨slot, rfl, hterm⟩
          cases term with
          | var name =>
              rw [resolveSlot_var hterm] at hkeys
              cases hkeys
              exact .var hat .nil
          | struct refs =>
              have apart := h.partsApart hterm
              obtain ⟨parts, rfl, hparts⟩ := exists_parts closed hterm apart hkeys
              have hbelow : table.Unfolds refs parts.flatten := by
                refine unfolds_flatten (hparts.imp ?_)
                rintro index part ⟨next, rfl, hnext, hpart⟩
                have hlt := apart.ncard_enters_lt hterm hnext
                exact ih _ (hcard ▸ hlt) (h.part hterm hnext) hpart rfl
              simpa using Unfolds.struct hat hbelow .nil

/-! Whole tables -/

/-- A resolved type is the concatenation of its resolved parts where these are apart, and what
unfolding it without remembered slots gives where it is a tree. -/
theorem resolve_eq_parts_and_unfolding (table : TypeTable) (closed : table.Closed) :
    ∃ resolved, table.resolve = .ok resolved ∧
      (∀ slot refs, table[slot]? = some (.struct refs) → table.PartsApart slot refs →
        ∃ parts, List.Forall₂ (fun index keys => atIndex resolved index = .ok keys) refs parts ∧
          resolved[slot]? = some parts.flatten) ∧
      ∀ slot < table.size, table.IsTree slot →
        ∃ keys, resolved[slot]? = some keys ∧
          ∀ keys', table.Unfolds [(slot : Int)] keys' ↔ keys' = keys := by
  obtain ⟨resolved, hresolved⟩ := exists_resolve_eq_ok_iff.mpr closed
  obtain ⟨-, hresults⟩ := resolve_eq_ok_iff.mp hresolved
  refine ⟨resolved, hresolved, ?_, ?_⟩
  · intro slot refs hslot apart
    obtain ⟨hlt, -⟩ := Array.getElem?_eq_some_iff.mp hslot
    obtain ⟨keys, hget, hkeys⟩ := hresults slot hlt
    obtain ⟨parts, rfl, hparts⟩ := exists_parts closed hslot apart hkeys
    refine ⟨parts, hparts.imp ?_, hget⟩
    rintro index part ⟨next, rfl, hnext, hpart⟩
    have hnextSlot := closed _ (mem_references_of_struct hslot hnext)
    obtain ⟨keys', hget', hkeys'⟩ := hresults next (Int.ofNat_lt.mp hnextSlot.2)
    rw [hpart] at hkeys'
    cases hkeys'
    exact atIndex_eq_ok_iff.mpr ⟨next, rfl, hget'⟩
  · intro slot hlt tree
    obtain ⟨keys, hget, hkeys⟩ := hresults slot hlt
    have hunfolds := tree.unfolds closed hkeys
    refine ⟨keys, hget, fun keys' => ⟨fun h => h.unique hunfolds, ?_⟩⟩
    rintro rfl
    exact hunfolds

/-- A slot with two parts: a cycle of two slots, and a tree that mentions a name twice. -/
def partsTable : TypeTable :=
  #[.struct [1, 3], .struct [2, 4], .struct [1], .struct [5, 4], .var ⟨⟨7⟩, "A"⟩, .struct [4, 6],
    .var ⟨⟨8⟩, "B"⟩]

theorem partsApart_partsTable : partsTable.PartsApart 0 [1, 3] :=
  partsApart_of_keepsInside (fun index => if index = 1 then [1, 2, 4] else [3, 4, 5, 6])
    (by decide) (by decide) (by decide)

theorem isTree_partsTable : partsTable.IsTree 3 := by
  have hname : partsTable.IsTree 4 := isTree_of_var rfl
  have hother : partsTable.IsTree 6 := isTree_of_var rfl
  have hinner : partsTable.IsTree 5 := by
    have apart : partsTable.PartsApart 5 [4, 6] :=
      partsApart_of_keepsInside (fun _ => [4, 6]) (by decide) (by decide) (by decide)
    refine isTree_of_parts rfl apart ?_
    simpa using ⟨hname, hother⟩
  have apart : partsTable.PartsApart 3 [5, 4] :=
    partsApart_of_keepsInside (fun index => if index = 5 then [4, 5, 6] else [4])
      (by decide) (by decide) (by decide)
  refine isTree_of_parts rfl apart ?_
  simpa using ⟨hinner, hname⟩

theorem resolve_eq_parts_and_unfolding_partsTable :
    partsTable.Closed ∧ partsTable.PartsApart 0 [1, 3] ∧ partsTable.IsTree 3 ∧
      ∃ resolved, partsTable.resolve = .ok resolved ∧
        (∃ parts, List.Forall₂ (fun index keys => atIndex resolved index = .ok keys) [1, 3] parts ∧
          resolved[0]? = some parts.flatten) ∧
        ∃ keys, resolved[3]? = some keys ∧
          ∀ keys', partsTable.Unfolds [((3 : Nat) : Int)] keys' ↔ keys' = keys := by
  obtain ⟨resolved, hresolved, hparts, htrees⟩ :=
    resolve_eq_parts_and_unfolding partsTable (by decide)
  refine ⟨by decide, partsApart_partsTable, isTree_partsTable, resolved, hresolved, ?_, ?_⟩
  · exact hparts 0 [1, 3] rfl partsApart_partsTable
  · exact htrees 3 (by decide) isTree_partsTable

example : partsTable.resolve =
    .ok #[[⟨7⟩, ⟨7⟩, ⟨8⟩, ⟨7⟩], [⟨7⟩], [⟨7⟩], [⟨7⟩, ⟨8⟩, ⟨7⟩], [⟨7⟩], [⟨7⟩, ⟨8⟩], [⟨8⟩]] := by cbv

end DeclGraph.TypeTable
