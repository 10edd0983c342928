import DeclGraph.Interface
import DeclGraph.Proofs.Grammar.Production
import DeclGraph.Proofs.Tree.Payload
import DeclGraph.Proofs.TypeTable.Resolved

/-!
What becomes of an interface dump: a bad index, no module, or a module.
-/

namespace DeclGraph.Interface

open Query Grammar

/-- All type indices in the trees: root by root, and at each node its own types, then those of its
identifiers, then those of its children. -/
def typeIndices (dump : Interface) : List Int := dump.roots.flatMap Node.payloads

/-- The references inside the type table that are none of its slots. -/
def badReferences (dump : Interface) : List Int :=
  dump.types.references.filter fun index => ¬ IsSlot dump.types.size index

def badIndices (dump : Interface) : List Int :=
  dump.typeIndices.filter fun index => ¬ IsSlot dump.types.size index

def moduleRootCount (dump : Interface) : Nat :=
  dump.roots.countP fun root => .moduleRoot ∈ root.annotations

variable {dump : Interface}

theorem badReferences_eq_nil_iff : dump.badReferences = [] ↔ dump.types.Closed := by
  simp [badReferences, TypeTable.Closed]

theorem findSome?_refusal?_atIndex {α : Type} (slots : Array α) (indices : List Int) :
    (indices.findSome? fun index => refusal? (atIndex slots index)) =
      (indices.filter fun index => ¬ IsSlot slots.size index).head?.map
        fun index => ⟨index, slots.size⟩ := by
  induction indices with
  | nil => rfl
  | cons index indices ih =>
      rw [List.findSome?_cons, refusal?_atIndex, ih]
      by_cases hindex : IsSlot slots.size index <;> simp [hindex]

theorem refusal?_resolvedRoots :
    refusal? dump.resolvedRoots =
      (refusal? dump.types.resolve).or
        (dump.badIndices.head?.map fun index => ⟨index, dump.types.size⟩) := by
  rw [resolvedRoots]
  refine refusal?_bind fun table htable => ?_
  rw [← Node.mapTypesAllM_eq_mapM, Node.refusal?_mapTypesAllM, Node.payloadsAll_eq_flatMap,
    findSome?_refusal?_atIndex, (TypeTable.resolve_eq_ok_iff.mp htable).1, badIndices, typeIndices]

theorem refusal?_parse : refusal? dump.parse = refusal? dump.resolvedRoots :=
  refusal?_bind_of_none fun _ => rfl

/-- A dump is refused for a reference inside its table, or else for the first bad index in its
trees. -/
theorem parse_eq_error {bad : BadIndex} (h : dump.parse = .error bad) :
    bad.size = dump.types.size ∧
      (dump.badReferences ≠ [] → bad.index ∈ dump.badReferences) ∧
      (dump.badReferences = [] → dump.badIndices.head? = some bad.index) := by
  rw [← refusal?_eq_some_iff, refusal?_parse, refusal?_resolvedRoots, Option.or_eq_some_iff,
    refusal?_eq_some_iff, refusal?_eq_none_iff, TypeTable.exists_resolve_eq_ok_iff,
    ← badReferences_eq_nil_iff] at h
  rcases h with htable | ⟨hclosed, hindex⟩
  · obtain ⟨hmem, hnot, hsize⟩ := TypeTable.mem_references_of_resolve_eq_error htable
    have hbad : bad.index ∈ dump.badReferences := by
      simp [badReferences, hmem, hnot]
    refine ⟨hsize, fun _ => hbad, fun hnil => ?_⟩
    rw [hnil] at hbad
    cases hbad
  · obtain ⟨index, hhead, rfl⟩ := Option.map_eq_some_iff.mp hindex
    exact ⟨rfl, fun hne => absurd hclosed hne, fun _ => hhead⟩

theorem exists_parse_eq_ok_iff (dump : Interface) :
    (∃ result, dump.parse = .ok result) ↔ dump.badReferences = [] ∧ dump.badIndices = [] := by
  rw [← refusal?_eq_none_iff, refusal?_parse, refusal?_resolvedRoots, Option.or_eq_none_iff,
    refusal?_eq_none_iff, TypeTable.exists_resolve_eq_ok_iff, ← badReferences_eq_nil_iff,
    Option.map_eq_none_iff, List.head?_eq_none_iff]

/-- Every module root matches, so a dump has as many modules as module roots. -/
theorem length_filterMap_moduleBody (name path : String) (roots : List ResolvedNode) :
    (roots.filterMap (moduleBody name path)).length =
      (roots.map Node.annotations).countP fun annotations => .moduleRoot ∈ annotations := by
  induction roots with
  | nil => rfl
  | cons root roots ih =>
      rw [List.filterMap_cons, List.map_cons, List.countP_cons, ← ih, moduleBody_eq]
      by_cases hroot : Annotation.moduleRoot ∈ root.annotations <;> simp [hroot]

theorem parse_eq_ok_iff {result : Option Module} :
    dump.parse = .ok result ↔ ∃ roots, dump.resolvedRoots = .ok roots ∧
      theOnly (roots.filterMap (moduleBody dump.moduleName dump.path)) = result := by
  rw [parse, bind_eq_ok_iff]
  simp only [one_id]
  constructor
  · rintro ⟨roots, hroots, hresult⟩
    cases hresult
    exact ⟨roots, hroots, rfl⟩
  · rintro ⟨roots, hroots, rfl⟩
    exact ⟨roots, hroots, rfl⟩

theorem length_modules {roots : List ResolvedNode} (h : dump.resolvedRoots = .ok roots) :
    (roots.filterMap (moduleBody dump.moduleName dump.path)).length = dump.moduleRootCount := by
  obtain ⟨table, -, hroots⟩ := bind_eq_ok_iff.mp h
  rw [length_filterMap_moduleBody, Node.map_annotations_of_mapM_eq_ok hroots, List.countP_map]
  rfl

theorem isSome_of_parse_eq_ok {result : Option Module} (h : dump.parse = .ok result) :
    result.isSome ↔ dump.moduleRootCount = 1 := by
  obtain ⟨roots, hroots, rfl⟩ := parse_eq_ok_iff.mp h
  rw [theOnly_isSome_iff, length_modules hroots]

theorem exists_root_of_parse_eq_ok {module : Module} (h : dump.parse = .ok (some module)) :
    ∃ roots, dump.resolvedRoots = .ok roots ∧
      ∃ root ∈ roots, moduleBody dump.moduleName dump.path root = some module := by
  obtain ⟨roots, hroots, honly⟩ := parse_eq_ok_iff.mp h
  exact ⟨roots, hroots, exists_mem_of_theOnly_filterMap honly⟩

theorem name_path_of_parse_eq_ok {module : Module} (h : dump.parse = .ok (some module)) :
    module.name = dump.moduleName ∧ module.path = dump.path := by
  obtain ⟨-, -, root, -, hroot⟩ := exists_root_of_parse_eq_ok h
  obtain ⟨-, rfl⟩ := (moduleBody_eq_some_iff root).mp hroot
  exact ⟨rfl, rfl⟩

/-- Reading a dump ends in one of three ways. It is refused for a bad index, in its table before
its trees; without one it has a module exactly when it has a single module root. -/
theorem parse_outcome (dump : Interface) :
    ((∃ bad, dump.parse = .error bad) ↔ dump.badReferences ≠ [] ∨ dump.badIndices ≠ []) ∧
    (dump.parse = .ok none ↔
      dump.badReferences = [] ∧ dump.badIndices = [] ∧ dump.moduleRootCount ≠ 1) ∧
    ((∃ module, dump.parse = .ok (some module)) ↔
      dump.badReferences = [] ∧ dump.badIndices = [] ∧ dump.moduleRootCount = 1) ∧
    (∀ module, dump.parse = .ok (some module) →
      module.name = dump.moduleName ∧ module.path = dump.path) ∧
    (∀ bad, dump.parse = .error bad → bad.size = dump.types.size ∧
      (dump.badReferences ≠ [] → bad.index ∈ dump.badReferences) ∧
      (dump.badReferences = [] → dump.badIndices.head? = some bad.index)) := by
  have hok := exists_parse_eq_ok_iff dump
  refine ⟨?_, ?_, ?_, fun module => name_path_of_parse_eq_ok, fun bad => parse_eq_error⟩
  · rw [← not_and_or, ← hok]
    cases dump.parse <;> simp
  · rw [← and_assoc, ← hok]
    constructor
    · intro hnone
      exact ⟨⟨none, hnone⟩, by simpa using isSome_of_parse_eq_ok hnone⟩
    · rintro ⟨⟨result, hresult⟩, hcount⟩
      have hnot := mt (isSome_of_parse_eq_ok hresult).mp hcount
      rw [hresult, Option.not_isSome_iff_eq_none.mp hnot]
  · rw [← and_assoc, ← hok]
    constructor
    · rintro ⟨module, hmodule⟩
      exact ⟨⟨some module, hmodule⟩, (isSome_of_parse_eq_ok hmodule).mp rfl⟩
    · rintro ⟨⟨result, hresult⟩, hcount⟩
      obtain ⟨module, rfl⟩ :=
        Option.isSome_iff_exists.mp ((isSome_of_parse_eq_ok hresult).mpr hcount)
      exact ⟨module, hresult⟩

end DeclGraph.Interface
