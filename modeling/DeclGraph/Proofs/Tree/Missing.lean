import DeclGraph.Proofs.Tree.Shape

/-!
Rewrites that may give no type. They keep a tree but for its types, and are functorial as far as no
identifier loses its type: what is absent is passed to no function.
-/

namespace DeclGraph

variable {ε τ σ ρ : Type}

namespace IdentifierEntry

/-- The entries name the same and occur alike, and the second has a type only if the first has. -/
structure Alike (entry : IdentifierEntry τ) (other : IdentifierEntry σ) : Prop where
  identifier : entry.identifier = other.identifier
  occurrences : entry.occurrences = other.occurrences
  absent : entry.type = none → other.type = none

theorem alike_settleType (f : τ → Option σ) (entry : IdentifierEntry τ) :
    entry.Alike (entry.mapType f).settleType := by
  refine ⟨rfl, rfl, fun habsent => ?_⟩
  rw [settleType, mapType, habsent]
  rfl

theorem settleType_eq_self {entry : IdentifierEntry (Option σ)} (h : entry.type ≠ some none) :
    entry.settleType = entry := by
  obtain ⟨identifier, _ | _ | s, occurrences⟩ := entry
  · rfl
  · exact absurd rfl h
  · rfl

/-- A second function sees the same, unless it finds a type where the first gave none. -/
theorem settleType_mapType_settleType {g : Option σ → Option ρ}
    {entry : IdentifierEntry (Option σ)} (h : entry.type = some none → g none = none) :
    (entry.settleType.mapType g).settleType = (entry.mapType g).settleType := by
  obtain ⟨identifier, _ | _ | s, occurrences⟩ := entry
  · rfl
  · simp [settleType, mapType, h rfl, Option.filter]
  · rfl

end IdentifierEntry

namespace Node

mutual

/-- The types of all identifiers in a tree. -/
def identifierTypes : Node τ → List τ
  | mk _ _ identifiers children =>
    identifiers.filterMap IdentifierEntry.type ++ identifierTypesAll children

def identifierTypesAll : List (Node τ) → List τ
  | [] => []
  | node :: nodes => identifierTypes node ++ identifierTypesAll nodes

end

theorem identifierTypesAll_eq_flatMap (nodes : List (Node τ)) :
    identifierTypesAll nodes = nodes.flatMap identifierTypes := by
  induction nodes with
  | nil => rfl
  | cons node nodes ih => simp [identifierTypesAll, ih]

theorem identifierTypes_eq (node : Node τ) :
    node.identifierTypes = node.identifiers.filterMap IdentifierEntry.type ++
      node.children.flatMap identifierTypes := by
  cases node
  rw [identifierTypes, identifierTypesAll_eq_flatMap]
  rfl

theorem settleAll_eq_map (nodes : List (Node (Option σ))) : settleAll nodes = nodes.map settle := by
  induction nodes with
  | nil => rfl
  | cons node nodes ih => simp [settleAll, ih]

section Settle

variable (node : Node (Option σ))

@[simp] theorem annotations_settle : node.settle.annotations = node.annotations := by
  cases node
  rfl

@[simp] theorem types_settle : node.settle.types = node.types := by
  cases node
  rfl

@[simp] theorem identifiers_settle :
    node.settle.identifiers = node.identifiers.map (·.settleType) := by
  cases node
  rfl

@[simp] theorem children_settle : node.settle.children = node.children.map settle := by
  cases node
  rw [settle, children, settleAll_eq_map]
  rfl

end Settle

/-- Trees with equal parts are equal. -/
theorem ext {node other : Node τ} (annotations : node.annotations = other.annotations)
    (types : node.types = other.types) (identifiers : node.identifiers = other.identifiers)
    (children : node.children = other.children) : node = other := by
  cases node
  cases other
  exact congr (congr (congr (congrArg mk annotations) types) identifiers) children

/-! The types of identifiers -/

theorem identifierTypes_mapTypes (f : τ → σ) (node : Node τ) :
    (node.mapTypes f).identifierTypes = node.identifierTypes.map f := by
  induction node using childInduction with
  | step node ih =>
      have hidentifiers : (node.identifiers.map (·.mapType f)).filterMap IdentifierEntry.type =
          (node.identifiers.filterMap IdentifierEntry.type).map f := by
        rw [List.filterMap_map, List.map_filterMap]
        rfl
      have hchildren : (node.children.map (mapTypes f)).flatMap identifierTypes =
          (node.children.flatMap identifierTypes).map f := by
        rw [List.flatMap_map, List.map_flatMap]
        exact List.flatMap_congr ih
      rw [identifierTypes_eq, identifierTypes_eq node, identifiers_mapTypes, children_mapTypes,
        hidentifiers, hchildren, List.map_append]

theorem filterMap_settleType (identifiers : List (IdentifierEntry (Option σ))) :
    (identifiers.map (·.settleType)).filterMap IdentifierEntry.type =
      (identifiers.filterMap IdentifierEntry.type).filter Option.isSome := by
  rw [List.filterMap_map, List.filter_filterMap]
  rfl

theorem identifierTypes_settle (node : Node (Option σ)) :
    node.settle.identifierTypes = node.identifierTypes.filter Option.isSome := by
  induction node using childInduction with
  | step node ih =>
      have hchildren : (node.children.map settle).flatMap identifierTypes =
          (node.children.flatMap identifierTypes).filter Option.isSome := by
        rw [List.flatMap_map, List.filter_flatMap]
        exact List.flatMap_congr ih
      rw [identifierTypes_eq, identifierTypes_eq node, identifiers_settle, children_settle,
        filterMap_settleType, hchildren, List.filter_append]

theorem length_filter_isSome (types : List (Option σ)) :
    (types.filter Option.isSome).length + types.countP Option.isNone = types.length := by
  induction types with
  | nil => rfl
  | cons type types ih =>
      cases type with
      | none =>
          rw [List.filter_cons_of_neg (by simp), List.countP_cons_of_pos (by rfl), List.length_cons]
          omega
      | some t =>
          rw [List.filter_cons_of_pos (by rfl), List.countP_cons_of_neg (by simp), List.length_cons,
            List.length_cons]
          omega

/-- A tree that is settled loses as many types as identifiers have none for one. -/
theorem length_payloads_settle (node : Node (Option σ)) :
    node.settle.payloads.length + node.identifierTypes.countP Option.isNone =
      node.payloads.length := by
  induction node using childInduction with
  | step node ih =>
      have hchildren (nodes : List (Node (Option σ))) (h : ∀ child ∈ nodes,
          child.settle.payloads.length + child.identifierTypes.countP Option.isNone =
            child.payloads.length) :
          ((nodes.map settle).flatMap payloads).length +
              (nodes.flatMap identifierTypes).countP Option.isNone =
            (nodes.flatMap payloads).length := by
        induction nodes with
        | nil => rfl
        | cons child nodes ihs =>
            have hchild := h child List.mem_cons_self
            have hrest := ihs fun other hother => h other (List.mem_cons_of_mem _ hother)
            simp only [List.map_cons, List.flatMap_cons, List.length_append, List.countP_append]
            omega
      have hown := length_filter_isSome (node.identifiers.filterMap IdentifierEntry.type)
      have hbelow := hchildren node.children ih
      rw [payloads_eq, payloads_eq node, identifierTypes_eq, types_settle, identifiers_settle,
        children_settle, filterMap_settleType]
      simp only [List.length_append, List.countP_append]
      omega

/-! Rewrites -/

theorem rewriteTypes_eq (f : τ → Option σ) (node : Node τ) :
    node.rewriteTypes f = mk node.annotations (node.types.map f)
      (node.identifiers.map fun entry => (entry.mapType f).settleType)
      (node.children.map (rewriteTypes f)) := by
  refine ext ?_ ?_ ?_ ?_
  · rw [rewriteTypes, annotations_settle, annotations_mapTypes, annotations]
  · rw [rewriteTypes, types_settle, types_mapTypes, types]
  · rw [rewriteTypes, identifiers_settle, identifiers_mapTypes, List.map_map, identifiers]
    rfl
  · rw [rewriteTypes, children_settle, children_mapTypes, List.map_map, children]
    rfl

/-- A tree without none among the types of its identifiers is settled. -/
theorem settle_eq_self {node : Node (Option σ)} (h : none ∉ node.identifierTypes) :
    node.settle = node := by
  induction node using childInduction with
  | step node ih =>
      rw [identifierTypes_eq, List.mem_append, not_or] at h
      obtain ⟨hown, hbelow⟩ := h
      refine ext (annotations_settle node) (types_settle node) ?_ ?_
      · have hentry : ∀ entry ∈ node.identifiers, entry.settleType = entry := by
          intro entry hentry
          refine IdentifierEntry.settleType_eq_self fun htype => hown ?_
          exact List.mem_filterMap.mpr ⟨entry, hentry, htype⟩
        calc
          _ = node.identifiers.map (·.settleType) := identifiers_settle node
          _ = node.identifiers.map id := List.map_congr_left hentry
          _ = node.identifiers := List.map_id _
      · have hchild : ∀ child ∈ node.children, child.settle = child := by
          intro child hchild
          refine ih child hchild fun hnone => hbelow ?_
          exact List.mem_flatMap.mpr ⟨child, hchild, hnone⟩
        calc
          _ = node.children.map settle := children_settle node
          _ = node.children.map id := List.map_congr_left hchild
          _ = node.children := List.map_id _

/-- A function sees of a settled tree what it sees of the tree, if it gives none for none. -/
theorem settle_mapTypes_settle {g : Option σ → Option ρ} {node : Node (Option σ)}
    (h : none ∈ node.identifierTypes → g none = none) :
    (node.settle.mapTypes g).settle = (node.mapTypes g).settle := by
  induction node using childInduction with
  | step node ih =>
      rw [identifierTypes_eq] at h
      refine ext ?_ ?_ ?_ ?_
      · simp
      · simp
      · simp only [identifiers_settle, identifiers_mapTypes, List.map_map]
        refine List.map_congr_left fun entry hentry => ?_
        refine IdentifierEntry.settleType_mapType_settleType fun htype => h ?_
        exact List.mem_append_left _ (List.mem_filterMap.mpr ⟨entry, hentry, htype⟩)
      · simp only [children_settle, children_mapTypes, List.map_map]
        refine List.map_congr_left fun child hchild => ih child hchild fun hnone => h ?_
        exact List.mem_append_right _ (List.mem_flatMap.mpr ⟨child, hchild, hnone⟩)

/-! Where identifiers lose their types -/

theorem none_mem_identifierTypes_mapTypes_iff {f : τ → Option σ} {node : Node τ} :
    none ∈ (node.mapTypes f).identifierTypes ↔ ∃ t ∈ node.identifierTypes, f t = none := by
  rw [identifierTypes_mapTypes, List.mem_map]

theorem rewriteTypes_eq_mapTypes {f : τ → Option σ} {node : Node τ}
    (h : ∀ t ∈ node.identifierTypes, f t ≠ none) : node.rewriteTypes f = node.mapTypes f := by
  refine settle_eq_self ?_
  rw [none_mem_identifierTypes_mapTypes_iff]
  rintro ⟨t, ht, hf⟩
  exact h t ht hf

theorem length_payloads_rewriteTypes_lt {f : τ → Option σ} {node : Node τ} {t : τ}
    (ht : t ∈ node.identifierTypes) (hf : f t = none) :
    (node.rewriteTypes f).payloads.length < node.payloads.length := by
  have hlength := length_payloads_settle (node.mapTypes f)
  have hcount : 0 < (node.mapTypes f).identifierTypes.countP Option.isNone :=
    List.countP_pos_iff.mpr ⟨none, none_mem_identifierTypes_mapTypes_iff.mpr ⟨t, ht, hf⟩, rfl⟩
  rw [payloads_mapTypes, List.length_map] at hlength
  rw [rewriteTypes]
  omega

/-- One rewrite after another is a single one, unless the second gives a type for the none that the
first gave an identifier. -/
theorem rewriteTypes_rewriteTypes_iff {f : τ → Option σ} {g : Option σ → Option ρ} {node : Node τ} :
    (node.rewriteTypes f).rewriteTypes g = node.rewriteTypes (g ∘ f) ↔
      ∀ t ∈ node.identifierTypes, f t = none → g none = none := by
  have hcomp : node.rewriteTypes (g ∘ f) = ((node.mapTypes f).mapTypes g).settle := by
    rw [rewriteTypes, mapTypes_mapTypes]
    rfl
  rw [hcomp, rewriteTypes, rewriteTypes]
  constructor
  · intro heq t ht hf
    by_contra hg
    have htypes := congrArg (fun whole => whole.identifierTypes.length) heq
    -- the single rewrite gives a type to an identifier that the second of two finds without one
    simp only [identifierTypes_settle, identifierTypes_mapTypes, List.filter_map, List.length_map]
      at htypes
    rw [List.filter_comm, List.length_filter_eq_length_iff] at htypes
    have htyped : t ∈ node.identifierTypes.filter ((Option.isSome ∘ g) ∘ f) := by
      refine List.mem_filter.mpr ⟨ht, ?_⟩
      rw [Function.comp_apply, hf]
      exact Option.isSome_iff_ne_none.mpr hg
    have hsome := htypes t htyped
    rw [Function.comp_apply, hf] at hsome
    cases hsome
  · intro h
    refine settle_mapTypes_settle fun hnone => ?_
    obtain ⟨t, ht, hf⟩ := none_mem_identifierTypes_mapTypes_iff.mp hnone
    exact h t ht hf

/-- The payloads of a rewritten tree are what the function gives for the payloads, unless an identifier
loses its type. -/
theorem payloads_rewriteTypes_iff {f : τ → Option σ} {node : Node τ} :
    (node.rewriteTypes f).payloads = node.payloads.map f ↔
      ∀ t ∈ node.identifierTypes, f t ≠ none := by
  constructor
  · intro heq t ht hf
    have hlength := length_payloads_rewriteTypes_lt ht hf
    rw [heq, List.length_map] at hlength
    exact Nat.lt_irrefl _ hlength
  · intro h
    rw [rewriteTypes_eq_mapTypes h, payloads_mapTypes]

/-- A rewritten tree has the shape of the tree, unless an identifier loses its type. -/
theorem sameShape_rewriteTypes_iff {f : τ → Option σ} {node : Node τ} :
    node.SameShape (node.rewriteTypes f) ↔ ∀ t ∈ node.identifierTypes, f t ≠ none := by
  constructor
  · intro hshape t ht hf
    have hlength := length_payloads_rewriteTypes_lt ht hf
    rw [hshape.payloads.length_eq] at hlength
    exact Nat.lt_irrefl _ hlength
  · intro h
    rw [rewriteTypes_eq_mapTypes h]
    exact (related_mapTypes f node).imp fun _ _ _ => trivial

theorem rewriteTypes_id_iff {node : Node (Option τ)} :
    node.rewriteTypes id = node ↔ none ∉ node.identifierTypes := by
  constructor
  · intro heq hnone
    have hpayloads : (node.rewriteTypes id).payloads = node.payloads.map id := by
      rw [heq, List.map_id]
    exact payloads_rewriteTypes_iff.mp hpayloads none hnone rfl
  · intro hnone
    rw [rewriteTypes, mapTypes_id, settle_eq_self hnone]

theorem none_notMem_identifierTypes_rewriteTypes (f : τ → Option σ) (node : Node τ) :
    none ∉ (node.rewriteTypes f).identifierTypes := by
  rw [rewriteTypes, identifierTypes_settle]
  simp

/-- The trees differ in no more than what their types are and which identifiers of the second have
none. -/
inductive SameOutline : Node τ → Node σ → Prop where
  | intro {node : Node τ} {other : Node σ}
      (annotations : node.annotations = other.annotations)
      (types : node.types.length = other.types.length)
      (identifiers : List.Forall₂ IdentifierEntry.Alike node.identifiers other.identifiers)
      (children : List.Forall₂ SameOutline node.children other.children) : SameOutline node other

theorem sameOutline_rewriteTypes (f : τ → Option σ) (node : Node τ) :
    node.SameOutline (node.rewriteTypes f) := by
  induction node using childInduction with
  | step node ih =>
      rw [rewriteTypes_eq]
      refine .intro rfl (List.length_map f).symm ?_ ?_
      · refine List.forall₂_map_right_iff.mpr (List.forall₂_same.mpr fun entry _ => ?_)
        exact IdentifierEntry.alike_settleType f entry
      · exact List.forall₂_map_right_iff.mpr (List.forall₂_same.mpr ih)

/-! Functions that may fail -/

theorem rewriteTypesM_eq_ok_iff {h : τ → Except ε (Option σ)} {node : Node τ}
    {mapped : Node (Option σ)} :
    node.rewriteTypesM h = .ok mapped ↔
      ∃ whole, node.Related (fun t s => h t = .ok s) whole ∧ whole.settle = mapped := by
  constructor
  · intro hmapped
    obtain ⟨whole, hwhole, hsettle⟩ := bind_eq_ok_iff.mp hmapped
    exact ⟨whole, mapTypesM_eq_ok_iff.mp hwhole, Except.ok.inj hsettle⟩
  · rintro ⟨whole, hwhole, rfl⟩
    exact bind_eq_ok_iff.mpr ⟨whole, mapTypesM_eq_ok_iff.mpr hwhole, rfl⟩

theorem rewriteTypesM_eq_ok (f : τ → Option σ) (node : Node τ) :
    node.rewriteTypesM (fun t => Except.ok (ε := ε) (f t)) = .ok (node.rewriteTypes f) :=
  bind_eq_ok_iff.mpr ⟨node.mapTypes f, mapTypesM_eq_ok fun _ _ => rfl, rfl⟩

theorem rewriteTypesM_eq_error_iff {h : τ → Except ε (Option σ)} {node : Node τ} {e : ε} :
    node.rewriteTypesM h = .error e ↔
      ∃ before t after, node.payloads = before ++ t :: after ∧ h t = .error e ∧
        ∀ s ∈ before, ∃ u, h s = .ok u := by
  rw [← mapTypesM_eq_error_iff, rewriteTypesM]
  cases node.mapTypesM h with
  | ok whole => exact iff_of_false nofun nofun
  | error problem => rfl

/-- Rewriting the types of a tree leaves everything else alone, and is functorial as far as no
identifier loses its type. A function that may fail rewrites the tree in the same way, or fails as it
does on the first type that it fails on. -/
theorem rewriteTypes_functorial (f : τ → Option σ) (g : Option σ → Option ρ)
    (h : τ → Except ε (Option σ)) (node : Node τ) :
    (∀ whole : Node (Option τ), whole.rewriteTypes id = whole ↔ none ∉ whole.identifierTypes) ∧
      none ∉ (node.rewriteTypes f).identifierTypes ∧
      ((node.rewriteTypes f).rewriteTypes g = node.rewriteTypes (g ∘ f) ↔
        ∀ t ∈ node.identifierTypes, f t = none → g none = none) ∧
      node.SameOutline (node.rewriteTypes f) ∧
      (node.SameShape (node.rewriteTypes f) ↔ ∀ t ∈ node.identifierTypes, f t ≠ none) ∧
      ((node.rewriteTypes f).payloads = node.payloads.map f ↔
        ∀ t ∈ node.identifierTypes, f t ≠ none) ∧
      node.rewriteTypesM (fun t => Except.ok (ε := ε) (f t)) = .ok (node.rewriteTypes f) ∧
      (∀ mapped, node.rewriteTypesM h = .ok mapped ↔
        ∃ whole, node.Related (fun t s => h t = .ok s) whole ∧ whole.settle = mapped) ∧
      ∀ e, node.rewriteTypesM h = .error e ↔
        ∃ before t after, node.payloads = before ++ t :: after ∧ h t = .error e ∧
          ∀ s ∈ before, ∃ u, h s = .ok u := by
  refine ⟨fun whole => rewriteTypes_id_iff, none_notMem_identifierTypes_rewriteTypes f node,
    rewriteTypes_rewriteTypes_iff, sameOutline_rewriteTypes f node, sameShape_rewriteTypes_iff,
    payloads_rewriteTypes_iff, rewriteTypesM_eq_ok f node, ?_, ?_⟩
  · exact fun mapped => rewriteTypesM_eq_ok_iff
  · exact fun e => rewriteTypesM_eq_error_iff

/-- A leaf with one identifier, which has a type. -/
def typedLeaf : Node Nat := mk [] [] [⟨.entity ⟨⟨1⟩, "x"⟩, some 7, [.use]⟩] []

/-- A function that gives none costs the identifier its type, and a second function cannot give it
another one. -/
theorem rewriteTypes_loses_type :
    (typedLeaf.rewriteTypes fun _ => (none : Option Nat)).rewriteTypes (fun _ => some 0) ≠
        typedLeaf.rewriteTypes ((fun _ => some 0) ∘ fun _ => (none : Option Nat)) ∧
      ¬ typedLeaf.SameShape (typedLeaf.rewriteTypes fun _ => (none : Option Nat)) ∧
      (typedLeaf.rewriteTypes fun _ => (none : Option Nat)).payloads ≠
        typedLeaf.payloads.map fun _ => none := by
  have htyped : 7 ∈ typedLeaf.identifierTypes := List.mem_singleton.mpr rfl
  refine ⟨fun heq => ?_, fun hshape => ?_, fun heq => ?_⟩
  · cases rewriteTypes_rewriteTypes_iff.mp heq 7 htyped rfl
  · exact sameShape_rewriteTypes_iff.mp hshape 7 htyped rfl
  · exact payloads_rewriteTypes_iff.mp heq 7 htyped rfl

end Node

end DeclGraph
