import DeclGraph.Proofs.Refusal
import DeclGraph.Tree.Node

/-!
The type payloads of a tree, in pre-order, and what rewriting them keeps.
-/

namespace DeclGraph

variable {ε τ σ : Type}

namespace Node

mutual

/-- All types in a tree: at each node its own, then those of its identifiers, then those of its
children. -/
def payloads : Node τ → List τ
  | mk _ types identifiers children =>
    types ++ identifiers.filterMap IdentifierEntry.type ++ payloadsAll children

def payloadsAll : List (Node τ) → List τ
  | [] => []
  | node :: nodes => payloads node ++ payloadsAll nodes

end

theorem payloadsAll_eq_flatMap (nodes : List (Node τ)) :
    payloadsAll nodes = nodes.flatMap payloads := by
  induction nodes with
  | nil => rfl
  | cons node nodes ih => simp [payloadsAll, ih]

theorem mapTypesAllM_eq_mapM (f : τ → Except ε σ) (nodes : List (Node τ)) :
    mapTypesAllM f nodes = nodes.mapM (mapTypesM f) := by
  induction nodes with
  | nil => rfl
  | cons node nodes ih => rw [mapTypesAllM, ih, List.mapM_cons]

theorem refusal?_mapTypeM (f : τ → Except ε σ) (entry : IdentifierEntry τ) :
    refusal? (entry.mapTypeM f) = entry.type.bind fun t => refusal? (f t) := by
  rw [IdentifierEntry.mapTypeM]
  cases entry.type with
  | none => rfl
  | some t => exact refusal?_bind_of_none fun _ => rfl

theorem findSome?_mapTypeM (f : τ → Except ε σ) (entries : List (IdentifierEntry τ)) :
    (entries.findSome? fun entry => refusal? (entry.mapTypeM f)) =
      (entries.filterMap IdentifierEntry.type).findSome? fun t => refusal? (f t) := by
  induction entries with
  | nil => rfl
  | cons entry entries ih =>
      rw [List.findSome?_cons, refusal?_mapTypeM, List.filterMap_cons, ih]
      cases entry.type with
      | none => rfl
      | some t =>
          rw [List.findSome?_cons]
          rfl

mutual

/-- A rewrite with failures reports the first payload in pre-order that it fails on. -/
theorem refusal?_mapTypesM (f : τ → Except ε σ) : ∀ node : Node τ,
    refusal? (node.mapTypesM f) = node.payloads.findSome? fun t => refusal? (f t)
  | mk annotations types identifiers children => by
      rw [mapTypesM, payloads, List.findSome?_append, List.findSome?_append, ← findSome?_mapTypeM,
        ← refusal?_mapM, ← refusal?_mapM, ← refusal?_mapTypesAllM f children, Option.or_assoc]
      refine refusal?_bind fun types' _ => refusal?_bind fun identifiers' _ => ?_
      exact refusal?_bind_of_none fun _ => rfl

theorem refusal?_mapTypesAllM (f : τ → Except ε σ) : ∀ nodes : List (Node τ),
    refusal? (mapTypesAllM f nodes) = (payloadsAll nodes).findSome? fun t => refusal? (f t)
  | [] => rfl
  | node :: nodes => by
      rw [mapTypesAllM, payloadsAll, List.findSome?_append, ← refusal?_mapTypesM f node,
        ← refusal?_mapTypesAllM f nodes]
      refine refusal?_bind fun node' _ => ?_
      exact refusal?_bind_of_none fun _ => rfl

end

theorem annotations_of_mapTypesM_eq_ok {f : τ → Except ε σ} {node : Node τ} {mapped : Node σ}
    (h : node.mapTypesM f = .ok mapped) : mapped.annotations = node.annotations := by
  cases node
  rw [mapTypesM] at h
  obtain ⟨types, -, h⟩ := bind_eq_ok_iff.mp h
  obtain ⟨identifiers, -, h⟩ := bind_eq_ok_iff.mp h
  obtain ⟨children, -, h⟩ := bind_eq_ok_iff.mp h
  cases h
  rfl

theorem map_annotations_of_mapM_eq_ok {f : τ → Except ε σ} {nodes : List (Node τ)}
    {mapped : List (Node σ)} (h : nodes.mapM (mapTypesM f) = .ok mapped) :
    mapped.map annotations = nodes.map annotations := by
  induction mapM_eq_ok_iff.mp h with
  | nil => rfl
  | cons hhead htail ih =>
      rw [List.map_cons, List.map_cons, annotations_of_mapTypesM_eq_ok hhead,
        ih (mapM_eq_ok_iff.mpr htail)]

end Node

end DeclGraph
