import DeclGraph.Proofs.Interface.Window
import DeclGraph.Proofs.TypeTable.Renumbering

/-!
Dumps whose type tables are numbered in another way: the same module is read from them.
-/

namespace DeclGraph

theorem TypeTable.Renumbers.symbolsAt_eq {place : Nat → Nat} {table table' : TypeTable}
    (h : Renumbers place table table') (closed : table.Closed) {index : Int}
    (hindex : IsSlot table.size index) :
    table'.symbolsAt (placeIndex place index) = table.symbolsAt index := by
  have hpending : ∀ other ∈ [index], IsSlot table.size other := by
    intro other hother
    rw [List.mem_singleton.mp hother]
    exact hindex
  have hexpand := h.expand_eq closed [] [index] (List.forall_mem_nil _) hpending
  rw [List.map_nil, List.map_singleton] at hexpand
  rw [symbolsAt, hexpand, symbolsAt]

namespace Interface

/-- The dump with another table, and every type index in its trees renumbered. -/
def renumber (dump : Interface) (place : Nat → Nat) (table : TypeTable) : Interface :=
  { dump with
    roots := dump.roots.map (Node.mapTypes (placeIndex place))
    types := table }

variable {dump : Interface} {place : Nat → Nat} {table : TypeTable}

theorem typeIndices_renumber :
    (dump.renumber place table).typeIndices = dump.typeIndices.map (placeIndex place) := by
  rw [typeIndices, typeIndices, renumber, List.flatMap_map, List.map_flatMap]
  exact List.flatMap_congr fun root _ => Node.payloads_mapTypes _ root

theorem Closed.renumber (closed : dump.Closed)
    (h : TypeTable.Renumbers place dump.types table) : (dump.renumber place table).Closed := by
  refine ⟨h.closed closed.types, fun index hindex => ?_⟩
  rw [typeIndices_renumber] at hindex
  obtain ⟨old, hold, rfl⟩ := List.mem_map.mp hindex
  exact h.isSlot_placeIndex (closed.roots old hold)

theorem readRoot_renumber (closed : dump.Closed)
    (h : TypeTable.Renumbers place dump.types table) {root : Node Int} (hroot : root ∈ dump.roots) :
    (dump.renumber place table).readRoot (root.mapTypes (placeIndex place)) =
      dump.readRoot root := by
  rw [readRoot, readRoot, Node.mapTypes_mapTypes]
  refine congrArg _ (Node.mapTypes_congr fun index hindex => ?_)
  exact h.symbolsAt_eq closed.types
    (closed.roots index (List.mem_flatMap.mpr ⟨root, hroot, hindex⟩))

theorem parse_renumber_eq (closed : dump.Closed)
    (h : TypeTable.Renumbers place dump.types table) :
    (dump.renumber place table).parse = dump.parse := by
  rw [parse_eq_ok closed, parse_eq_ok (closed.renumber h)]
  refine congrArg (fun modules => Except.ok (Query.theOnly modules)) ?_
  rw [renumber, List.filterMap_map]
  exact List.filterMap_congr fun root hroot => readRoot_renumber closed h hroot

/-- The numbers of slots do not matter, nor do slots that nothing refers to. -/
theorem resolve_and_parse_renumber (dump : Interface) (closed : dump.Closed) (place : Nat → Nat)
    (table : TypeTable) (h : TypeTable.Renumbers place dump.types table) :
    (∃ resolved resolved', dump.types.resolve = .ok resolved ∧ table.resolve = .ok resolved' ∧
      ∀ slot < dump.types.size,
        ∃ keys, resolved[slot]? = some keys ∧ resolved'[place slot]? = some keys) ∧
    ∃ result, dump.parse = .ok result ∧ (dump.renumber place table).parse = .ok result := by
  constructor
  · obtain ⟨resolved, hresolved, -, hkeys⟩ := TypeTable.exists_resolve_eq_ok closed.types
    obtain ⟨resolved', hresolved', -, hkeys'⟩ :=
      TypeTable.exists_resolve_eq_ok (h.closed closed.types)
    refine ⟨resolved, resolved', hresolved, hresolved', fun slot hslot => ?_⟩
    refine ⟨dump.types.symbolsAt slot, hkeys slot hslot, ?_⟩
    rw [hkeys' (place slot) (h.place_lt hslot)]
    exact congrArg some (h.symbolsAt_eq closed.types (isSlot_iff.mpr ⟨slot, hslot, rfl⟩))
  · exact ⟨_, parse_eq_ok closed, (parse_renumber_eq closed h).trans (parse_eq_ok closed)⟩

/-- A record that uses a type which refers to itself. -/
def cyclicDump : Interface where
  moduleName := "M"
  path := "M.hs"
  roots := [.mk [.moduleRoot] [] [] [
    .mk [] [0] [] [entityNode .dataDecl 1 (some 1) [], recordNode]]]
  types := #[.struct [1, 0, 1], .var ⟨⟨30⟩, "t"⟩]

/-- The types of `cyclicDump` in the other order, behind one that nothing refers to. -/
def movedTable : TypeTable :=
  #[.struct [0, 2], .var ⟨⟨30⟩, "t"⟩, .struct [1, 2, 1]]

theorem renumbers_movedTable : TypeTable.Renumbers (2 - ·) cyclicDump.types movedTable where
  injective := by decide
  moved := by
    intro slot term hterm
    rcases slot with _ | _ | slot
    · cases hterm
      rfl
    · cases hterm
      rfl
    · simp [cyclicDump] at hterm
  others := by
    intro slot term hterm hplace
    rcases slot with _ | _ | _ | slot
    · cases hterm
      decide
    · exact absurd rfl (hplace 1 (by decide))
    · exact absurd rfl (hplace 0 (by decide))
    · simp [movedTable] at hterm

theorem resolve_and_parse_renumber_movedTable :
    cyclicDump.Closed ∧ TypeTable.Renumbers (2 - ·) cyclicDump.types movedTable ∧
      (∃ resolved resolved', cyclicDump.types.resolve = .ok resolved ∧
        movedTable.resolve = .ok resolved' ∧
        ∀ slot < cyclicDump.types.size,
          ∃ keys, resolved[slot]? = some keys ∧ resolved'[2 - slot]? = some keys) ∧
      ∃ result, cyclicDump.parse = .ok result ∧
        (cyclicDump.renumber (2 - ·) movedTable).parse = .ok result :=
  ⟨by decide, renumbers_movedTable, resolve_and_parse_renumber cyclicDump (by decide) (2 - ·)
    movedTable renumbers_movedTable⟩

end Interface

end DeclGraph
