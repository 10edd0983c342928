import DeclGraph.Proofs.TypeTable.Resolved

/-!
Types whose parts share nothing. Such a type mentions what its parts mention by themselves, part by
part, so that the keys of a part may be taken from its own slot.
-/

namespace DeclGraph.TypeTable

/-- References lead from the index to the structural slot. The slot of the index counts as well. -/
def Enters (table : TypeTable) (index : Int) (slot : Nat) : Prop :=
  table.IsStruct slot ∧ ∃ start : Nat, index = start ∧ table.Reachable start slot

/-- No structural slot is entered from two of the references, and `slot` is entered from none. -/
structure PartsApart (table : TypeTable) (slot : Nat) (refs : List Int) : Prop where
  disjoint : refs.Pairwise fun index other =>
    ∀ shared, table.Enters index shared → ¬ table.Enters other shared
  fresh : ∀ index ∈ refs, ¬ table.Enters index slot

variable {table : TypeTable}

theorem enters_self {slot : Nat} (h : table.IsStruct slot) : table.Enters slot slot :=
  ⟨h, slot, rfl, .refl⟩

theorem Enters.of_ref {slot shared : Nat} {refs : List Int} {index : Int}
    (h : table.Enters index shared) (hslot : table[slot]? = some (.struct refs))
    (hindex : index ∈ refs) : table.Enters slot shared := by
  obtain ⟨hshared, next, rfl, hreach⟩ := h
  obtain ⟨position, hposition⟩ := List.getElem?_of_mem hindex
  exact ⟨hshared, slot, rfl, .head ⟨position, refs, hslot, hposition⟩ hreach⟩

/-! Expansions with other slots entered before -/

/-- Only those entered slots matter that the pending indices can enter. -/
theorem expand_congr {visited visited' : List Nat} {pending : List Int}
    (h : ∀ index ∈ pending, ∀ slot, table.Enters index slot → (slot ∈ visited ↔ slot ∈ visited')) :
    table.expand visited pending = table.expand visited' pending := by
  fun_induction expand table visited pending generalizing visited' with
  | case1 => rw [expand]
  | case2 visited index pending bad hat => rw [expand_bad hat]
  | case3 visited index pending name hat ih =>
      obtain ⟨slot, rfl, hslot⟩ := atIndex_eq_ok_iff.mp hat
      rw [expand_var hslot, ih fun other hother => h other (List.mem_cons_of_mem _ hother)]
  | case4 visited index pending refs hat hv ih =>
      obtain ⟨slot, rfl, hslot⟩ := atIndex_eq_ok_iff.mp hat
      have hv' : slot ∈ visited' := (h _ List.mem_cons_self slot (enters_self ⟨refs, hslot⟩)).mp hv
      rw [expand_entered hslot hv', ih fun other hother => h other (List.mem_cons_of_mem _ hother)]
  | case5 visited index pending refs hat hv _ ih =>
      obtain ⟨slot, rfl, hslot⟩ := atIndex_eq_ok_iff.mp hat
      have hsame := h _ List.mem_cons_self slot (enters_self ⟨refs, hslot⟩)
      rw [Int.toNat_natCast] at hv ih ⊢
      rw [expand_fresh hslot (mt hsame.mpr hv)]
      apply ih
      intro index hindex other hother
      have hagree : other ∈ visited ↔ other ∈ visited' := by
        rcases List.mem_append.mp hindex with hinside | hlater
        · exact h _ List.mem_cons_self other (hother.of_ref hslot hinside)
        · exact h index (List.mem_cons_of_mem _ hlater) other hother
      rw [List.mem_cons, List.mem_cons, hagree]

/-- Indices that enter nothing in common are expanded one list after the other. -/
theorem expand_append {visited : List Nat} {front back : List Int}
    (h : ∀ index ∈ front, ∀ slot, table.Enters index slot →
      ∀ other ∈ back, ¬ table.Enters other slot) :
    table.expand visited (front ++ back) = (do
      let keys ← table.expand visited front
      let later ← table.expand visited back
      pure (keys ++ later)) := by
  fun_induction expand table visited front with
  | case1 visited =>
      rw [List.nil_append]
      cases table.expand visited back <;> rfl
  | case2 visited index front bad hat =>
      rw [List.cons_append, expand_bad hat]
      rfl
  | case3 visited index front name hat ih =>
      obtain ⟨slot, rfl, hslot⟩ := atIndex_eq_ok_iff.mp hat
      rw [List.cons_append, expand_var hslot,
        ih fun other hother => h other (List.mem_cons_of_mem _ hother)]
      cases table.expand visited front <;> cases table.expand visited back <;> rfl
  | case4 visited index front refs hat hv ih =>
      obtain ⟨slot, rfl, hslot⟩ := atIndex_eq_ok_iff.mp hat
      rw [List.cons_append, expand_entered hslot hv,
        ih fun other hother => h other (List.mem_cons_of_mem _ hother)]
  | case5 visited index front refs hat hv _ ih =>
      obtain ⟨slot, rfl, hslot⟩ := atIndex_eq_ok_iff.mp hat
      rw [Int.toNat_natCast] at hv ih ⊢
      have hnot : ∀ other ∈ back, ¬ table.Enters other slot :=
        h _ List.mem_cons_self slot (enters_self ⟨refs, hslot⟩)
      have hback : table.expand (slot :: visited) back = table.expand visited back := by
        apply expand_congr
        intro other hother entered hentered
        have hne : entered ≠ slot := fun heq => hnot other hother (heq ▸ hentered)
        rw [List.mem_cons, or_iff_right hne]
      rw [List.cons_append, expand_fresh hslot hv, ← List.append_assoc, ih, hback]
      intro index hindex entered hentered
      rcases List.mem_append.mp hindex with hinside | hlater
      · exact h _ List.mem_cons_self entered (hentered.of_ref hslot hinside)
      · exact h index (List.mem_cons_of_mem _ hlater) entered hentered

theorem expand_eq_mapM {visited : List Nat} {refs : List Int}
    (hdisjoint : refs.Pairwise fun index other =>
      ∀ shared, table.Enters index shared → ¬ table.Enters other shared)
    (hfresh : ∀ index ∈ refs, ∀ slot ∈ visited, ¬ table.Enters index slot) :
    table.expand visited refs =
      List.flatten <$> refs.mapM fun index => table.expand [] [index] := by
  induction refs with
  | nil =>
      rw [expand]
      rfl
  | cons index refs ih =>
      obtain ⟨hfirst, hrest⟩ := List.pairwise_cons.mp hdisjoint
      have hhead : table.expand visited [index] = table.expand [] [index] := by
        apply expand_congr
        intro other hother slot hslot
        rw [List.mem_singleton.mp hother] at hslot
        exact iff_of_false (fun hmem => hfresh index List.mem_cons_self slot hmem hslot)
          List.not_mem_nil
      have hsplit : table.expand visited ([index] ++ refs) = _ := expand_append (by
        intro first hmem slot hslot other hother
        rw [List.mem_singleton.mp hmem] at hslot
        exact hfirst other hother slot hslot)
      rw [List.singleton_append] at hsplit
      rw [hsplit, hhead, ih hrest fun other hother => hfresh other (List.mem_cons_of_mem _ hother),
        List.mapM_cons]
      cases table.expand [] [index] with
      | error bad => rfl
      | ok keys => cases refs.mapM fun index => table.expand [] [index] <;> rfl

/-- A structural slot whose parts are apart has the keys of its parts, in order. -/
theorem resolveSlot_of_partsApart {slot : Nat} {refs : List Int}
    (hslot : table[slot]? = some (.struct refs)) (h : table.PartsApart slot refs) :
    table.resolveSlot slot = List.flatten <$> refs.mapM fun index => table.expand [] [index] := by
  rw [resolveSlot, expand_fresh hslot List.not_mem_nil, List.append_nil]
  apply expand_eq_mapM h.disjoint
  intro index hindex entered hentered
  rw [List.mem_singleton.mp hentered]
  exact h.fresh index hindex

/-- Each part has the keys of the slot that it refers to. -/
theorem exists_parts (closed : table.Closed) {slot : Nat} {refs : List Int} {keys : List SymbolKey}
    (hslot : table[slot]? = some (.struct refs)) (h : table.PartsApart slot refs)
    (hkeys : table.resolveSlot slot = .ok keys) :
    ∃ parts, keys = parts.flatten ∧
      List.Forall₂ (fun (index : Int) part => ∃ next : Nat, index = next ∧ index ∈ refs ∧
        table.resolveSlot next = .ok part) refs parts := by
  rw [resolveSlot_of_partsApart hslot h] at hkeys
  obtain ⟨parts, hparts, rfl⟩ := map_eq_ok_iff.mp hkeys
  have hmembers := (List.forall₂_and_left refs parts).mpr
    ⟨fun index (hindex : index ∈ refs) => hindex, mapM_eq_ok_iff.mp hparts⟩
  refine ⟨parts, rfl, hmembers.imp ?_⟩
  rintro index part ⟨hindex, hpart⟩
  obtain ⟨next, -, rfl⟩ := isSlot_iff.mp (closed index (mem_references_of_struct hslot hindex))
  exact ⟨next, rfl, hindex, hpart⟩

/-! Parts that are seen to be apart -/

instance (table : TypeTable) (slot : Nat) : Decidable (table.IsStruct slot) :=
  match h : table[slot]? with
  | some (.struct refs) => .isTrue ⟨refs, h⟩
  | some (.var _) => .isFalse fun ⟨_, hrefs⟩ => nomatch h.symm.trans hrefs
  | none => .isFalse fun ⟨_, hrefs⟩ => nomatch h.symm.trans hrefs

/-- References from the slots lead to these slots only. -/
def KeepsInside (table : TypeTable) (slots : List Nat) : Prop :=
  ∀ slot ∈ slots, ∀ term ∈ table[slot]?, ∀ index ∈ term.references, index.toNat ∈ slots

instance (table : TypeTable) (slots : List Nat) : Decidable (table.KeepsInside slots) :=
  inferInstanceAs (Decidable (∀ slot ∈ slots, ∀ term ∈ table[slot]?, ∀ index ∈ term.references,
    index.toNat ∈ slots))

theorem KeepsInside.mem_of_enters {slots : List Nat} (h : table.KeepsInside slots) {index : Int}
    (hindex : index.toNat ∈ slots) {entered : Nat} (henters : table.Enters index entered) :
    entered ∈ slots := by
  obtain ⟨-, start, rfl, hreach⟩ := henters
  rw [Int.toNat_natCast] at hindex
  induction hreach with
  | refl => exact hindex
  | tail _ hleads ih =>
      obtain ⟨position, refs, hrefs, hposition⟩ := hleads
      exact h _ ih _ hrefs _ (List.mem_of_getElem? hposition)

/-- Parts are apart when each keeps inside slots of its own. -/
theorem partsApart_of_keepsInside {slot : Nat} {refs : List Int} (inside : Int → List Nat)
    (hkeeps : ∀ index ∈ refs, table.KeepsInside (inside index) ∧ index.toNat ∈ inside index)
    (hdisjoint : refs.Pairwise fun index other =>
      ∀ shared ∈ inside index, table.IsStruct shared → shared ∉ inside other)
    (hfresh : ∀ index ∈ refs, slot ∉ inside index) : table.PartsApart slot refs := by
  have hmem : ∀ index ∈ refs, ∀ entered, table.Enters index entered → entered ∈ inside index := by
    intro index hindex entered henters
    obtain ⟨hkept, hstart⟩ := hkeeps index hindex
    exact hkept.mem_of_enters hstart henters
  constructor
  case disjoint =>
    refine hdisjoint.imp_of_mem ?_
    intro index other hindex hother hapart shared henters henters'
    have hleft := hmem index hindex shared henters
    have hright := hmem other hother shared henters'
    exact hapart shared hleft henters.1 hright
  case fresh =>
    intro index hindex henters
    exact hfresh index hindex (hmem index hindex slot henters)

end DeclGraph.TypeTable
