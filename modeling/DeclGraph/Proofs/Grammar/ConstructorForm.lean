import DeclGraph.Proofs.Grammar.Uniqueness
import DeclGraph.Proofs.Grammar.UseBlocks
import DeclGraph.Proofs.Matching

/-!
The form of a constructor: where its name stands, and whether its body is a record. Children are
counted by position, so that two equal children are two.
-/

namespace DeclGraph.Grammar

open Query

/-- A child of the node is a record field. -/
def holdsField (node : ResolvedNode) : Bool :=
  node.children.any fun child => (recordField child).isSome

/-- The fields are those of the children that are record fields, in order, each with the uses of its
whole node. There is at least one. -/
structure HasFields (node : ResolvedNode) (fields : List RecordField) : Prop where
  ne_nil : fields ≠ []
  read : List.Forall₂ (fun child field => recordField child = some field ∧ field.uses = uses child)
    (node.children.filter fun child => (recordField child).isSome) fields

/-- A body is a record when exactly one child holds fields, and naked otherwise. -/
def HasBody (node : ResolvedNode) : ConstructorBody → Prop
  | .record fields =>
    ∃ container, IsOnly holdsField node.children container ∧ HasFields container fields
  | .naked keys => node.children.countP holdsField ≠ 1 ∧ keys = uses node

variable {node : ResolvedNode}

/-! Records -/

theorem recordFields_eq_some_iff_hasFields (node : ResolvedNode) (fields : List RecordField) :
    recordFields node = some fields ↔ HasFields node fields := by
  have hread : List.Forall₂ (fun child field => recordField child = some field)
      (node.children.filter fun child => (recordField child).isSome)
      (node.children.filterMap recordField) :=
    forall₂_filterMap (fun _ _ hsome => (Option.isSome_iff_exists.mp hsome).imp fun _ h => ⟨h, h⟩)
      fun _ _ hnone => Option.not_isSome_iff_eq_none.mp (Bool.eq_false_iff.mp hnone)
  rw [recordFields_eq_some_iff]
  constructor
  · rintro ⟨rfl, hne⟩
    exact ⟨hne, hread.imp fun child field hfield => ⟨hfield, uses_of_recordField hfield⟩⟩
  · rintro ⟨hne, hfields⟩
    refine ⟨Relator.RightUnique.forall₂ ?_ (hfields.imp fun _ _ hfield => hfield.1) hread, hne⟩
    intro child field field' hfield hfield'
    exact Option.some_inj.mp (hfield.symm.trans hfield')

theorem isSome_recordFields (node : ResolvedNode) :
    (recordFields node).isSome = holdsField node := by
  rw [Bool.eq_iff_iff, holdsField, List.any_eq_true, Option.isSome_iff_exists]
  constructor
  · rintro ⟨fields, hfields⟩
    obtain ⟨rfl, hne⟩ := (recordFields_eq_some_iff node).mp hfields
    obtain ⟨field, hfield⟩ := List.exists_mem_of_ne_nil _ hne
    obtain ⟨child, hchild, hread⟩ := List.mem_filterMap.mp hfield
    exact ⟨child, hchild, Option.isSome_of_eq_some hread⟩
  · rintro ⟨child, hchild, hread⟩
    obtain ⟨field, hfield⟩ := Option.isSome_iff_exists.mp hread
    refine ⟨_, (recordFields_eq_some_iff node).mpr ⟨rfl, ?_⟩⟩
    exact List.ne_nil_of_mem (List.mem_filterMap.mpr ⟨child, hchild, hfield⟩)

theorem isSome_fieldContainer :
    (fieldContainer node).isSome ↔ node.children.countP holdsField = 1 := by
  rw [fieldContainer_eq]
  exact isSome_theOnly_iff isSome_recordFields

theorem fieldContainer_eq_some_iff {fields : List RecordField} :
    fieldContainer node = some fields ↔ HasBody node (.record fields) := by
  rw [fieldContainer_eq]
  exact theOnly_filterMap_eq_some_iff isSome_recordFields
    fun container fields _ => recordFields_eq_some_iff_hasFields container fields

/-! Bodies -/

theorem hasBody_iff {body : ConstructorBody} :
    HasBody node body ↔ body = (fieldContainer node).elim (.naked (uses node)) .record := by
  cases hcontainer : fieldContainer node with
  | none =>
      have hcount : node.children.countP holdsField ≠ 1 := by
        rw [ne_eq, ← isSome_fieldContainer, hcontainer]
        exact Bool.false_ne_true
      constructor
      · intro h
        cases body with
        | record fields =>
            rw [← fieldContainer_eq_some_iff, hcontainer] at h
            cases h
        | naked keys => exact congrArg ConstructorBody.naked h.2
      · rintro rfl
        exact ⟨hcount, rfl⟩
  | some fields =>
      have hcount := isSome_fieldContainer.mp (Option.isSome_of_eq_some hcontainer)
      constructor
      · intro h
        cases body with
        | record fields' =>
            rw [← fieldContainer_eq_some_iff, hcontainer] at h
            cases h
            rfl
        | naked keys => exact absurd hcount h.1
      · rintro rfl
        exact fieldContainer_eq_some_iff.mp hcontainer

/-- A constructor is read just when exactly one child declares exactly one constructor. Its key, its
name and its body are then determined by the children. -/
theorem constructor_reads (node : ResolvedNode) :
    ((constructor node).isSome ↔ node.children.countP (Node.hasOneName .conDecl) = 1) ∧
    ∀ con, constructor node = some con ↔
      NamedBy node .conDecl ⟨con.key, con.name⟩ ∧ HasBody node con.body := by
  constructor
  · rw [constructor_eq, Option.isSome_map]
    exact isSome_uniqueNameChild
  · intro con
    rw [constructor_eq, Option.map_eq_some_iff, hasBody_iff, ← uniqueNameChild_eq_some_iff]
    constructor
    · rintro ⟨name, hname, rfl⟩
      exact ⟨hname, rfl⟩
    · rintro ⟨hname, hbody⟩
      refine ⟨_, hname, ?_⟩
      rw [← hbody]

-- A container that stands twice makes no record, and its uses are collected twice.
example :
    let name : ResolvedNode := .mk [] [] [⟨.entity ⟨⟨1⟩, "C"⟩, none, [.conDecl]⟩] []
    let field : ResolvedNode := .mk [] [] []
      [.mk [] [] [⟨.entity ⟨⟨2⟩, "f"⟩, none, [.recordFieldDecl]⟩] [],
        .mk [] [[⟨3⟩]] [] []]
    constructor (.mk [] [] [] [name, .mk [] [] [] [field], .mk [] [] [] [field]]) =
      some ⟨⟨1⟩, "C", .naked [⟨3⟩, ⟨3⟩]⟩ := rfl

end DeclGraph.Grammar
