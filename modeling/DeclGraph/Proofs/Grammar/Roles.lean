import DeclGraph.Proofs.Matching
import DeclGraph.Proofs.Text.Split

/-!
The tags that a dump gives a node, and the roles that the grammar reads off them.

A tag is looked up as one text, in which a slash stands between its two parts. As the parts may hold
slashes too, different tags can have one text. A role that the grammar knows is still given by a
single tag, since its text has one slash only, and no tag at all has the text of the role that is not
recognised.
-/

namespace DeclGraph

/-- A role as a dump writes it. -/
@[ext] structure RoleTag where
  category : String
  subcategory : String
deriving DecidableEq, Repr

namespace RoleTag

def label (tag : RoleTag) : String := tag.category ++ "/" ++ tag.subcategory

def role (tag : RoleTag) : Annotation := Annotation.classify tag.category tag.subcategory

theorem toList_label (tag : RoleTag) :
    tag.label.toList = tag.category.toList ++ '/' :: tag.subcategory.toList := by
  simp [label]

theorem eq_of_label_eq {tag known : RoleTag} (hcategory : '/' ∉ known.category.toList)
    (hsubcategory : '/' ∉ known.subcategory.toList) (h : tag.label = known.label) :
    tag = known := by
  have hchars := congrArg String.toList h
  rw [toList_label, toList_label] at hchars
  obtain ⟨hleft, hright⟩ := Text.cut_at_only hcategory hsubcategory hchars
  exact RoleTag.ext (String.toList_inj.mp hleft) (String.toList_inj.mp hright)

end RoleTag

namespace Annotation

/-- The tag that gives a role. -/
def tag? : Annotation → Option RoleTag
  | moduleRoot => some ⟨"Module", "Module"⟩
  | importDecl => some ⟨"ImportDecl", "ImportDecl"⟩
  | unrecognized => none

theorem ofLabel?_eq_some_iff {label : String} {a : Annotation} :
    ofLabel? label = some a ↔ a.label = label := by
  constructor
  · intro h
    have hfound := List.find?_some h
    exact eq_of_beq hfound
  · rintro rfl
    exact ofLabel?_label a

theorem label_of_tag? {a : Annotation} {tag : RoleTag} (h : a.tag? = some tag) :
    a.label = tag.label ∧ '/' ∉ tag.category.toList ∧ '/' ∉ tag.subcategory.toList := by
  cases a with
  | moduleRoot =>
      cases h
      decide
  | importDecl =>
      cases h
      decide
  | unrecognized => cases h

theorem slash_notMem_label {a : Annotation} (h : a.tag? = none) : '/' ∉ a.label.toList := by
  cases a with
  | moduleRoot => cases h
  | importDecl => cases h
  | unrecognized => decide

theorem label_eq_iff {a : Annotation} {tag : RoleTag} :
    a.label = tag.label ↔ a.tag? = some tag := by
  constructor
  · intro h
    rcases hknown : a.tag? with _ | known
    -- every tag has a slash in its text, a role without a tag has none
    · have hslash := slash_notMem_label hknown
      rw [h, RoleTag.toList_label] at hslash
      exact absurd (List.mem_append_right _ List.mem_cons_self) hslash
    · obtain ⟨hlabel, hcategory, hsubcategory⟩ := label_of_tag? hknown
      rw [RoleTag.eq_of_label_eq hcategory hsubcategory (h.symm.trans hlabel)]
  · exact fun h => (label_of_tag? h).1

end Annotation

namespace RoleTag

open Annotation (ofLabel? ofLabel?_eq_some_iff label_eq_iff)

variable {tag other : RoleTag} {a : Annotation}

def IsOther (tag : RoleTag) : Prop :=
  tag ≠ ⟨"Module", "Module"⟩ ∧ tag ≠ ⟨"ImportDecl", "ImportDecl"⟩

instance : DecidablePred IsOther := fun _ => inferInstanceAs (Decidable (_ ∧ _))

theorem isOther_iff : tag.IsOther ↔ ∀ a : Annotation, a.tag? ≠ some tag := by
  constructor
  · rintro ⟨hmodule, himport⟩ (_ | _ | _) htag
    · exact hmodule (Option.some.inj htag).symm
    · exact himport (Option.some.inj htag).symm
    · cases htag
  · intro h
    refine ⟨?_, ?_⟩
    · rintro rfl
      exact h .moduleRoot rfl
    · rintro rfl
      exact h .importDecl rfl

theorem role_eq_iff :
    tag.role = a ↔ a.tag? = some tag ∨ a = .unrecognized ∧ tag.IsOther := by
  have hsome (b : Annotation) : ofLabel? tag.label = some b ↔ b.tag? = some tag :=
    ofLabel?_eq_some_iff.trans label_eq_iff
  have hnone : ofLabel? tag.label = none ↔ tag.IsOther := by
    rw [Option.eq_none_iff_forall_ne_some, isOther_iff]
    exact forall_congr' fun b => not_congr (hsome b)
  have hrole : tag.role = (ofLabel? tag.label).getD .unrecognized := rfl
  rw [hrole, Option.getD_eq_iff, hsome, hnone, eq_comm (a := a), and_comm]

theorem role_eq_unrecognized_iff : tag.role = .unrecognized ↔ tag.IsOther := by
  rw [role_eq_iff]
  constructor
  · rintro (hnone | ⟨-, hother⟩)
    · cases hnone
    · exact hother
  · exact fun hother => .inr ⟨rfl, hother⟩

theorem role_eq_iff_of_tag? (ha : a.tag? = some other) : tag.role = a ↔ tag = other := by
  have hne : a ≠ .unrecognized := by
    rintro rfl
    cases ha
  rw [role_eq_iff, ha, Option.some_inj, eq_comm]
  exact or_iff_left fun h => hne h.1

theorem role_eq_role_iff :
    tag.role = other.role ↔ tag = other ∨ tag.IsOther ∧ other.IsOther := by
  rcases role_eq_iff.mp (rfl : other.role = other.role) with hknown | ⟨hrole, hother⟩
  · rw [role_eq_iff_of_tag? hknown]
    constructor
    · exact .inl
    · rintro (h | ⟨-, hother⟩)
      · exact h
      · exact absurd hknown (isOther_iff.mp hother _)
  · rw [hrole, role_eq_unrecognized_iff]
    constructor
    · exact fun htag => .inr ⟨htag, hother⟩
    · rintro (rfl | ⟨htag, -⟩)
      · exact hother
      · exact htag

end RoleTag

namespace Node

variable {τ : Type} {node : Node τ} {tags : List RoleTag} {tag : RoleTag} {a : Annotation}

/-- The roles of the node are those that its tags give, in any order and number. -/
def HasTags (node : Node τ) (tags : List RoleTag) : Prop :=
  SameSet node.annotations (tags.map RoleTag.role)

instance (node : Node τ) (tags : List RoleTag) : Decidable (node.HasTags tags) :=
  inferInstanceAs (Decidable (SameSet _ _))

theorem HasTags.mem_iff (h : node.HasTags tags) :
    a ∈ node.annotations ↔ ∃ tag ∈ tags, tag.role = a :=
  (h a).trans List.mem_map

theorem HasTags.mem_iff_of_tag? (h : node.HasTags tags) (ha : a.tag? = some tag) :
    a ∈ node.annotations ↔ tag ∈ tags := by
  rw [h.mem_iff]
  constructor
  · rintro ⟨other, hmem, hrole⟩
    rwa [← (RoleTag.role_eq_iff_of_tag? ha).mp hrole]
  · exact fun hmem => ⟨tag, hmem, (RoleTag.role_eq_iff_of_tag? ha).mpr rfl⟩

theorem HasTags.annotations_eq_nil_iff (h : node.HasTags tags) :
    node.annotations = [] ↔ tags = [] :=
  (SameSet.eq_nil_iff h).trans List.map_eq_nil_iff

end Node

namespace Grammar

variable {node : ResolvedNode} {tags : List RoleTag}

/-- The tests for roles see the tags of a node as they stand in the dump, and no two tags are taken for
one another unless the grammar knows neither. -/
theorem roles_read_tags (h : node.HasTags tags) :
    (annotated .moduleRoot node = some () ↔ ⟨"Module", "Module"⟩ ∈ tags) ∧
      (annotated .importDecl node = some () ↔ ⟨"ImportDecl", "ImportDecl"⟩ ∈ tags) ∧
      (annotated .unrecognized node = some () ↔ ∃ tag ∈ tags, tag.IsOther) ∧
      (untagged node = some () ↔ tags = []) ∧
      ∀ tag other : RoleTag, tag.role = other.role ↔
        tag = other ∨ tag.IsOther ∧ other.IsOther := by
  refine ⟨?_, ?_, ?_, ?_, fun tag other => RoleTag.role_eq_role_iff⟩
  · rw [annotated_eq_some_iff, h.mem_iff_of_tag? rfl]
  · rw [annotated_eq_some_iff, h.mem_iff_of_tag? rfl]
  · rw [annotated_eq_some_iff, h.mem_iff]
    exact exists_congr fun tag => and_congr_right fun _ => RoleTag.role_eq_unrecognized_iff
  · rw [untagged_eq_some_iff, h.annotations_eq_nil_iff]

/-- The tags of a module root. The second and the third have one text, and so have the fourth and the
fifth. -/
def slashedTags : List RoleTag :=
  [⟨"Module", "Module"⟩, ⟨"ImportDecl/", "ImportDecl"⟩, ⟨"ImportDecl", "/ImportDecl"⟩,
    ⟨"Module/Module", ""⟩, ⟨"Module", "Module/"⟩, ⟨"Module", "Module"⟩]

def slashedRoot : ResolvedNode := .mk [.unrecognized, .moduleRoot] [] [] []

theorem roles_read_tags_slashedRoot :
    slashedRoot.HasTags slashedTags ∧
      annotated .moduleRoot slashedRoot = some () ∧
      annotated .importDecl slashedRoot ≠ some () ∧
      annotated .unrecognized slashedRoot = some () ∧
      untagged slashedRoot ≠ some () := by
  have htags : slashedRoot.HasTags slashedTags := by decide
  obtain ⟨hmodule, himport, hother, huntagged, -⟩ := roles_read_tags htags
  refine ⟨htags, hmodule.mpr ?_, mt himport.mp ?_, hother.mpr ?_, mt huntagged.mp ?_⟩
  · exact List.mem_cons_self
  · decide
  · decide
  · decide

end Grammar

end DeclGraph
