import DeclGraph.Proofs.Tree.Payload

/-!
Trees whose types are passed through a function, and proofs that go from the children of a node to
the node.
-/

namespace DeclGraph

variable {ε τ σ : Type}

namespace Node

mutual

/-- What holds of a node whenever it holds of its children holds of every node. -/
@[elab_as_elim]
theorem childInduction {motive : Node τ → Prop}
    (step : ∀ node, (∀ child ∈ node.children, motive child) → motive node) :
    ∀ node, motive node
  | mk _ _ _ children => step _ (childInductionAll step children)

theorem childInductionAll {motive : Node τ → Prop}
    (step : ∀ node, (∀ child ∈ node.children, motive child) → motive node) :
    ∀ (nodes : List (Node τ)), ∀ child ∈ nodes, motive child
  | [] => List.forall_mem_nil motive
  | node :: nodes =>
    List.forall_mem_cons.mpr ⟨childInduction step node, childInductionAll step nodes⟩

end

theorem payloads_eq (node : Node τ) :
    node.payloads = node.types ++ node.identifiers.filterMap IdentifierEntry.type ++
      node.children.flatMap payloads := by
  cases node
  rw [payloads, payloadsAll_eq_flatMap]
  rfl

theorem mem_payloads_of_mem_children {node child : Node τ} (h : child ∈ node.children) {t : τ}
    (ht : t ∈ child.payloads) : t ∈ node.payloads := by
  rw [payloads_eq]
  exact List.mem_append_right _ (List.mem_flatMap.mpr ⟨child, h, ht⟩)

theorem mapTypes_eq (f : τ → σ) (node : Node τ) :
    node.mapTypes f = mk node.annotations (node.types.map f)
      (node.identifiers.map (·.mapType f)) (node.children.map (mapTypes f)) := by
  cases node
  rw [mapTypes, mapTypesAll_eq_map]
  rfl

section MapTypes

variable (f : τ → σ) (node : Node τ)

@[simp] theorem annotations_mapTypes : (node.mapTypes f).annotations = node.annotations := by
  rw [mapTypes_eq, annotations]

@[simp] theorem types_mapTypes : (node.mapTypes f).types = node.types.map f := by
  rw [mapTypes_eq, types]

@[simp] theorem identifiers_mapTypes :
    (node.mapTypes f).identifiers = node.identifiers.map (·.mapType f) := by
  rw [mapTypes_eq, identifiers]

@[simp] theorem children_mapTypes :
    (node.mapTypes f).children = node.children.map (mapTypes f) := by
  rw [mapTypes_eq, children]

end MapTypes

theorem mapTypeM_eq_ok {f : τ → Except ε σ} {g : τ → σ} {entry : IdentifierEntry τ}
    (h : ∀ t, entry.type = some t → f t = .ok (g t)) :
    entry.mapTypeM f = .ok (entry.mapType g) := by
  rcases entry with ⟨identifier, _ | t, occurrences⟩
  · rfl
  · exact bind_eq_ok_iff.mpr ⟨g t, h t rfl, rfl⟩

/-- A rewrite that fails on no payload is one by a function. -/
theorem mapTypesM_eq_ok {f : τ → Except ε σ} {g : τ → σ} {node : Node τ}
    (h : ∀ t ∈ node.payloads, f t = .ok (g t)) : node.mapTypesM f = .ok (node.mapTypes g) := by
  induction node using childInduction with
  | step node ih =>
      have htypes : node.types.mapM f = .ok (node.types.map g) := by
        refine mapM_eq_ok_map fun t ht => h t ?_
        rw [payloads_eq, List.append_assoc]
        exact List.mem_append_left _ ht
      have hidentifiers : node.identifiers.mapM (fun entry => entry.mapTypeM f) =
          .ok (node.identifiers.map fun entry => entry.mapType g) := by
        refine mapM_eq_ok_map fun entry hentry => mapTypeM_eq_ok fun t ht => h t ?_
        rw [payloads_eq]
        refine List.mem_append_left _ (List.mem_append_right _ ?_)
        exact List.mem_filterMap.mpr ⟨entry, hentry, ht⟩
      have hchildren : mapTypesAllM f node.children = .ok (node.children.map (mapTypes g)) := by
        rw [mapTypesAllM_eq_mapM]
        refine mapM_eq_ok_map fun child hchild => ih child hchild fun t ht => h t ?_
        exact mem_payloads_of_mem_children hchild ht
      rw [mapTypes_eq]
      cases node
      exact bind_eq_ok_iff.mpr ⟨_, htypes, bind_eq_ok_iff.mpr ⟨_, hidentifiers,
        bind_eq_ok_iff.mpr ⟨_, hchildren, rfl⟩⟩⟩

/-- Functions that agree on the payloads of a tree rewrite it to the same tree. -/
theorem mapTypes_congr {f g : τ → σ} {node : Node τ} (h : ∀ t ∈ node.payloads, f t = g t) :
    node.mapTypes f = node.mapTypes g := by
  -- Both are the value of one rewrite that cannot fail.
  have hf : node.mapTypesM (fun t => Except.ok (ε := Unit) (f t)) = .ok (node.mapTypes f) :=
    mapTypesM_eq_ok fun _ _ => rfl
  have hg : node.mapTypesM (fun t => Except.ok (ε := Unit) (f t)) = .ok (node.mapTypes g) :=
    mapTypesM_eq_ok fun t ht => congrArg Except.ok (h t ht)
  exact Except.ok.inj (hf.symm.trans hg)

theorem mapTypes_mapTypes {ρ : Type} (f : τ → σ) (g : σ → ρ) (node : Node τ) :
    (node.mapTypes f).mapTypes g = node.mapTypes fun t => g (f t) := by
  induction node using childInduction with
  | step node ih =>
      rw [mapTypes_eq g, mapTypes_eq fun t => g (f t)]
      simpa [IdentifierEntry.mapType, Function.comp_def] using ih

theorem payloads_mapTypes (f : τ → σ) (node : Node τ) :
    (node.mapTypes f).payloads = node.payloads.map f := by
  induction node using childInduction with
  | step node ih =>
      have hidentifiers : (node.identifiers.map (·.mapType f)).filterMap IdentifierEntry.type =
          (node.identifiers.filterMap IdentifierEntry.type).map f := by
        rw [List.filterMap_map, List.map_filterMap]
        rfl
      have hchildren : (node.children.map (mapTypes f)).flatMap payloads =
          (node.children.flatMap payloads).map f := by
        rw [List.flatMap_map, List.map_flatMap]
        exact List.flatMap_congr ih
      rw [payloads_eq, payloads_eq node, types_mapTypes, identifiers_mapTypes, children_mapTypes,
        hidentifiers, hchildren, List.map_append, List.map_append]

end Node

end DeclGraph
