import DeclGraph.Proofs.Grammar.Likeness
import DeclGraph.Proofs.Interface.Outcome
import DeclGraph.Proofs.Tree.Rewrite
import DeclGraph.Proofs.TypeTable.Listing

/-!
Dumps without a bad index. Their trees are resolved by a function on indices, and reading them
always ends with a module or without one.
-/

namespace DeclGraph

namespace TypeTable

/-- The symbols that an index stands for; there are none where its expansion meets a bad index. -/
def symbolsAt (table : TypeTable) (index : Int) : List SymbolKey :=
  match table.expand [] [index] with
  | .ok keys => keys
  | .error _ => []

variable {table : TypeTable}

theorem resolveSlot_eq_ok (closed : table.Closed) {slot : Nat} (hslot : slot < table.size) :
    table.resolveSlot slot = .ok (table.symbolsAt slot) := by
  obtain ⟨keys, hkeys, -⟩ := resolveSlot_standsFor closed hslot
  have hexpand : table.expand [] [(slot : Int)] = .ok keys := hkeys
  rw [hkeys, symbolsAt, hexpand]

theorem standsFor_symbolsAt (closed : table.Closed) {slot : Nat} (hslot : slot < table.size) :
    table.StandsFor slot (table.symbolsAt slot) := by
  obtain ⟨keys, hkeys, hmeaning⟩ := resolveSlot_standsFor closed hslot
  rw [resolveSlot_eq_ok closed hslot] at hkeys
  cases hkeys
  exact hmeaning

theorem exists_resolve_eq_ok (closed : table.Closed) :
    ∃ resolved, table.resolve = .ok resolved ∧ resolved.size = table.size ∧
      ∀ slot < table.size, resolved[slot]? = some (table.symbolsAt slot) := by
  obtain ⟨resolved, hresolved⟩ := exists_resolve_eq_ok_iff.mpr closed
  obtain ⟨hsize, hresults⟩ := resolve_eq_ok_iff.mp hresolved
  refine ⟨resolved, hresolved, hsize, ?_⟩
  intro slot hslot
  obtain ⟨keys, hget, hkeys⟩ := hresults slot hslot
  rw [resolveSlot_eq_ok closed hslot] at hkeys
  cases hkeys
  exact hget

end TypeTable

namespace Interface

open Query Grammar

/-- Every type index of the dump, in its table and in its trees, is a slot of the table. -/
structure Closed (dump : Interface) : Prop where
  types : dump.types.Closed
  roots : ∀ index ∈ dump.typeIndices, IsSlot dump.types.size index

instance (dump : Interface) : Decidable dump.Closed :=
  decidable_of_iff
    (dump.types.Closed ∧ ∀ index ∈ dump.typeIndices, IsSlot dump.types.size index)
    ⟨fun h => ⟨h.1, h.2⟩, fun h => ⟨h.types, h.roots⟩⟩

variable {dump : Interface}

theorem closed_iff : dump.Closed ↔ dump.badReferences = [] ∧ dump.badIndices = [] := by
  rw [badReferences_eq_nil_iff]
  constructor
  · intro h
    refine ⟨h.types, List.filter_eq_nil_iff.mpr fun index hindex => ?_⟩
    simpa using h.roots index hindex
  · rintro ⟨htypes, hroots⟩
    refine ⟨htypes, fun index hindex => ?_⟩
    simpa using List.filter_eq_nil_iff.mp hroots index hindex

theorem resolvedRoots_eq_ok (closed : dump.Closed) :
    dump.resolvedRoots = .ok (dump.roots.map (Node.mapTypes dump.types.symbolsAt)) := by
  obtain ⟨resolved, hresolved, -, hsymbols⟩ := TypeTable.exists_resolve_eq_ok closed.types
  refine bind_eq_ok_iff.mpr ⟨resolved, hresolved, mapM_eq_ok_map fun root hroot => ?_⟩
  refine Node.mapTypesM_eq_ok fun index hindex => ?_
  have hslot := closed.roots index (List.mem_flatMap.mpr ⟨root, hroot, hindex⟩)
  obtain ⟨slot, hlt, rfl⟩ := isSlot_iff.mp hslot
  exact atIndex_eq_ok_iff.mpr ⟨slot, rfl, hsymbols slot hlt⟩

/-- A module production sees a root with its types resolved. -/
def readRoot (dump : Interface) (root : Node Int) : Option Module :=
  moduleBody dump.moduleName dump.path (root.mapTypes dump.types.symbolsAt)

theorem parse_eq_ok (closed : dump.Closed) :
    dump.parse = .ok (theOnly (dump.roots.filterMap dump.readRoot)) := by
  refine parse_eq_ok_iff.mpr ⟨_, resolvedRoots_eq_ok closed, ?_⟩
  rw [List.filterMap_map]
  rfl

theorem closed_of_parse_eq_ok {result : Option Module} (h : dump.parse = .ok result) :
    dump.Closed :=
  closed_iff.mpr ((exists_parse_eq_ok_iff dump).mp ⟨result, h⟩)

/-- Dumps whose resolved roots are alike are read as like modules. -/
theorem parse_alike {dump' : Interface} (like : Likeness) (closed : dump.Closed)
    (closed' : dump'.Closed) (hname : dump.moduleName = dump'.moduleName)
    (hpath : dump.path = dump'.path)
    (hroots : like.arrangement.Match
      (fun root root' => like.Nodes 3 5 (root.mapTypes dump.types.symbolsAt)
        (root'.mapTypes dump'.types.symbolsAt)) dump.roots dump'.roots) :
    ∃ result result', dump.parse = .ok result ∧ dump'.parse = .ok result' ∧
      Option.Rel like.Modules result result' := by
  refine ⟨_, _, parse_eq_ok closed, parse_eq_ok closed', ?_⟩
  refine (hroots.filterMap fun root root' hroot => ?_).theOnly
  rw [readRoot, readRoot, ← hname, ← hpath]
  exact hroot.moduleBody dump.moduleName dump.path

end Interface

end DeclGraph
