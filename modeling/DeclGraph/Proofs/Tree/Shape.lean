import DeclGraph.Proofs.Tree.Rewrite

/-!
What a rewrite of the types of a tree leaves alone: the shape of the tree, with its annotations and
its identifiers. The types themselves are rewritten where they stand, in pre-order.
-/

namespace DeclGraph

variable {ε τ σ : Type} {R S : τ → σ → Prop}

/-- The entries differ in no more than their type, which both have or both lack. -/
structure IdentifierEntry.Related (R : τ → σ → Prop) (entry : IdentifierEntry τ)
    (other : IdentifierEntry σ) : Prop where
  identifier : entry.identifier = other.identifier
  occurrences : entry.occurrences = other.occurrences
  type : Option.Rel R entry.type other.type

theorem IdentifierEntry.Related.imp (hRS : ∀ t s, R t s → S t s) {entry : IdentifierEntry τ}
    {other : IdentifierEntry σ} (h : entry.Related R other) : entry.Related S other := by
  refine ⟨h.identifier, h.occurrences, ?_⟩
  obtain ⟨-, -, htype⟩ := h
  generalize entry.type = type, other.type = type' at htype ⊢
  cases htype with
  | none => exact .none
  | some hts => exact .some (hRS _ _ hts)

theorem IdentifierEntry.mapTypeM_eq_ok_iff {f : τ → Except ε σ} {entry : IdentifierEntry τ}
    {mapped : IdentifierEntry σ} :
    entry.mapTypeM f = .ok mapped ↔ entry.Related (fun t s => f t = .ok s) mapped := by
  obtain ⟨identifier, type, occurrences⟩ := entry
  obtain ⟨identifier', type', occurrences'⟩ := mapped
  constructor
  · intro h
    cases type with
    | none =>
        cases h
        exact ⟨rfl, rfl, .none⟩
    | some t =>
        obtain ⟨s, hs, hmapped⟩ := bind_eq_ok_iff.mp h
        cases hmapped
        exact ⟨rfl, rfl, .some hs⟩
  · rintro ⟨hidentifier, hoccurrences, htype⟩
    dsimp only at hidentifier hoccurrences htype
    subst hidentifier hoccurrences
    cases htype with
    | none => rfl
    | some hs => exact bind_eq_ok_iff.mpr ⟨_, hs, rfl⟩

namespace Node

/-- The same tree, but that each type has become a related one where it stands. -/
inductive Related (R : τ → σ → Prop) : Node τ → Node σ → Prop where
  | intro {node : Node τ} {other : Node σ}
      (annotations : node.annotations = other.annotations)
      (types : List.Forall₂ R node.types other.types)
      (identifiers : List.Forall₂ (IdentifierEntry.Related R) node.identifiers other.identifiers)
      (children : List.Forall₂ (Related R) node.children other.children) : Related R node other

/-- The trees differ in no more than what their types are. -/
def SameShape : Node τ → Node σ → Prop := Related fun _ _ => True

theorem Related.imp (hRS : ∀ t s, R t s → S t s) {node : Node τ} {other : Node σ}
    (h : node.Related R other) : node.Related S other := by
  induction node using childInduction generalizing other with
  | step node ih =>
      obtain ⟨hannotations, htypes, hidentifiers, hchildren⟩ := h
      refine .intro hannotations (htypes.imp hRS) ?_ ?_
      · exact hidentifiers.imp fun _ _ hentry => hentry.imp hRS
      · have hboth := (List.forall₂_and_left _ _).mpr
          ⟨fun child hchild => @ih child hchild, hchildren⟩
        exact hboth.imp fun _ _ hchild => hchild.1 hchild.2

/-- The types of related trees are related one by one, in pre-order. -/
theorem Related.payloads {node : Node τ} {other : Node σ} (h : node.Related R other) :
    List.Forall₂ R node.payloads other.payloads := by
  induction node using childInduction generalizing other with
  | step node ih =>
      obtain ⟨-, htypes, hidentifiers, hchildren⟩ := h
      have hentries : List.Forall₂ R (node.identifiers.filterMap IdentifierEntry.type)
          (other.identifiers.filterMap IdentifierEntry.type) :=
        List.rel_filterMap (fun _ _ hentry => hentry.type) hidentifiers
      have hbelow : List.Forall₂ R (node.children.flatMap Node.payloads)
          (other.children.flatMap Node.payloads) := by
        have hboth := (List.forall₂_and_left _ _).mpr
          ⟨fun child hchild => @ih child hchild, hchildren⟩
        exact List.rel_flatMap hboth fun _ _ hchild => hchild.1 hchild.2
      rw [payloads_eq, payloads_eq]
      exact List.rel_append (List.rel_append htypes hentries) hbelow

theorem mapTypes_id (node : Node τ) : node.mapTypes id = node := by
  induction node using childInduction with
  | step node ih =>
      have hidentifiers : node.identifiers.map (·.mapType id) = node.identifiers := by
        apply List.map_id''
        intro entry
        rw [IdentifierEntry.mapType, Option.map_id, id]
      have hchildren : node.children.map (mapTypes id) = node.children := by
        calc
          _ = node.children.map id := List.map_congr_left ih
          _ = node.children := List.map_id _
      rw [mapTypes_eq, List.map_id, hidentifiers, hchildren]
      cases node
      rfl

/-- A rewrite that may fail comes to its end in the one tree in which each type has become its
result. -/
theorem mapTypesM_eq_ok_iff {f : τ → Except ε σ} {node : Node τ} {mapped : Node σ} :
    node.mapTypesM f = .ok mapped ↔ node.Related (fun t s => f t = .ok s) mapped := by
  induction node using childInduction generalizing mapped with
  | step node ih =>
      have hchildren (mapped : List (Node σ)) :
          mapTypesAllM f node.children = .ok mapped ↔
            List.Forall₂ (Related fun t s => f t = .ok s) node.children mapped := by
        rw [mapTypesAllM_eq_mapM, mapM_eq_ok_iff]
        constructor
        · intro hmapped
          have hboth := (List.forall₂_and_left _ _).mpr
            ⟨fun child hchild => @ih child hchild, hmapped⟩
          exact hboth.imp fun _ _ hchild => hchild.1.mp hchild.2
        · intro hrelated
          have hboth := (List.forall₂_and_left _ _).mpr
            ⟨fun child hchild => @ih child hchild, hrelated⟩
          exact hboth.imp fun _ _ hchild => hchild.1.mpr hchild.2
      obtain ⟨annotations, types, identifiers, children⟩ := node
      obtain ⟨annotations', types', identifiers', children'⟩ := mapped
      rw [mapTypesM]
      constructor
      · intro h
        obtain ⟨mappedTypes, htypes, h⟩ := bind_eq_ok_iff.mp h
        obtain ⟨mappedIdentifiers, hidentifiers, h⟩ := bind_eq_ok_iff.mp h
        obtain ⟨mappedChildren, hbelow, h⟩ := bind_eq_ok_iff.mp h
        cases h
        refine Related.intro rfl ?_ ?_ ?_
        · exact mapM_eq_ok_iff.mp htypes
        · exact (mapM_eq_ok_iff.mp hidentifiers).imp fun _ _ hentry =>
            IdentifierEntry.mapTypeM_eq_ok_iff.mp hentry
        · exact (hchildren _).mp hbelow
      · rintro ⟨hannotations, htypes, hidentifiers, hbelow⟩
        have hentries := hidentifiers.imp fun _ _ hentry =>
          IdentifierEntry.mapTypeM_eq_ok_iff.mpr hentry
        dsimp only [Node.annotations] at hannotations
        subst hannotations
        refine bind_eq_ok_iff.mpr ⟨_, mapM_eq_ok_iff.mpr htypes, ?_⟩
        refine bind_eq_ok_iff.mpr ⟨_, mapM_eq_ok_iff.mpr hentries, ?_⟩
        exact bind_eq_ok_iff.mpr ⟨_, (hchildren _).mpr hbelow, rfl⟩

theorem related_mapTypes (f : τ → σ) (node : Node τ) :
    node.Related (fun t s => f t = s) (node.mapTypes f) := by
  have hok : node.mapTypesM (fun t => Except.ok (ε := Unit) (f t)) = .ok (node.mapTypes f) :=
    mapTypesM_eq_ok fun _ _ => rfl
  exact (mapTypesM_eq_ok_iff.mp hok).imp fun _ _ => Except.ok.inj

/-- The error of a rewrite is that of the first type, in pre-order, that the function fails on. -/
theorem mapTypesM_eq_error_iff {f : τ → Except ε σ} {node : Node τ} {e : ε} :
    node.mapTypesM f = .error e ↔
      ∃ before t after, node.payloads = before ++ t :: after ∧ f t = .error e ∧
        ∀ s ∈ before, ∃ u, f s = .ok u := by
  rw [← refusal?_eq_some_iff, refusal?_mapTypesM, List.findSome?_eq_some_iff]
  simp only [refusal?_eq_some_iff, refusal?_eq_none_iff]

end Node

end DeclGraph
