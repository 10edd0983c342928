import DeclGraph.Proofs.Grammar.Uniqueness

/-!
Imports, as the only match among the children of a node. Children that are untagged but name no
module, or several, are passed over.
-/

namespace DeclGraph

open Query

variable {τ : Type}

/-- The entry names a module that is imported. -/
def IdentifierEntry.namesImport : IdentifierEntry τ → Bool
  | ⟨.module _, _, occurrences⟩ => decide (.moduleImport ∈ occurrences)
  | ⟨.entity _, _, _⟩ => false

namespace Node

def isUntagged (node : Node τ) : Bool := node.annotations.isEmpty

def hasOneImport (node : Node τ) : Bool :=
  node.identifiers.countP IdentifierEntry.namesImport == 1

end Node

namespace Grammar

variable {node : ResolvedNode}

/-- The module is that of the only imported entry of the node. -/
def NamesImport (node : ResolvedNode) (name : String) : Prop :=
  ∃ entry, IsOnly IdentifierEntry.namesImport node.identifiers entry ∧
    entry.identifier = .module name

/-- The node is an import whose only untagged child names the module. -/
def IsPlainImport (node : ResolvedNode) (name : String) : Prop :=
  .importDecl ∈ node.annotations ∧
    ∃ child, IsOnly Node.isUntagged node.children child ∧ NamesImport child name

/-- An untagged child that names exactly one module. -/
def isImportChild (node : ResolvedNode) : Bool := node.isUntagged && node.hasOneImport

theorem isSome_importedModule (entry : ResolvedEntry) :
    (importedModule entry).isSome = entry.namesImport := by
  rcases entry with ⟨name | name, type, occurrences⟩
  · rfl
  · by_cases h : .moduleImport ∈ occurrences <;>
      simp [importedModule, IdentifierEntry.namesImport, h]

theorem importedModule_eq_some_iff (entry : ResolvedEntry) (name : String)
    (h : entry.namesImport = true) :
    importedModule entry = some name ↔ entry.identifier = .module name := by
  rcases entry with ⟨name' | name', type, occurrences⟩
  · cases h
  · rw [importedModule, if_pos (of_decide_eq_true h), Identifier.module.injEq]
    exact Option.some_inj

theorem importedName_eq_some_iff {name : String} :
    importedName node = some name ↔ NamesImport node name := by
  rw [importedName_eq]
  exact theOnly_filterMap_eq_some_iff isSome_importedModule importedModule_eq_some_iff

theorem isSome_importedName (node : ResolvedNode) :
    (importedName node).isSome = node.hasOneImport := by
  rw [Bool.eq_iff_iff, importedName_eq, Node.hasOneImport, beq_iff_eq]
  exact isSome_theOnly_iff isSome_importedModule

theorem isSome_importChild (node : ResolvedNode) :
    (importChild node).isSome = isImportChild node := by
  rw [importChild_eq, isImportChild, Node.isUntagged, ← isSome_importedName]
  cases node.annotations <;> rfl

theorem importChild_eq_some_iff (node : ResolvedNode) (name : String)
    (h : isImportChild node = true) :
    importChild node = some name ↔ NamesImport node name := by
  have huntagged : node.annotations = [] := List.isEmpty_iff.mp (Bool.and_eq_true_iff.mp h).1
  rw [importChild_eq, if_pos huntagged]
  exact importedName_eq_some_iff

theorem importDecl_eq_some_iff {name : String} :
    importDecl node = some name ↔
      .importDecl ∈ node.annotations ∧
        ∃ child, IsOnly isImportChild node.children child ∧ NamesImport child name := by
  rw [importDecl_eq, Option.ite_none_right_eq_some]
  exact and_congr_right fun _ =>
    theOnly_filterMap_eq_some_iff isSome_importChild importChild_eq_some_iff

/-- An import is read off the only untagged child that names exactly one module. It is plain just
when no other child is untagged. -/
theorem importDecl_reads (node : ResolvedNode) (name : String) :
    (importDecl node = some name ↔
      .importDecl ∈ node.annotations ∧
        ∃ child, IsOnly isImportChild node.children child ∧ NamesImport child name) ∧
    (IsPlainImport node name ↔
      importDecl node = some name ∧ node.children.countP Node.isUntagged = 1) := by
  refine ⟨importDecl_eq_some_iff, ?_⟩
  rw [importDecl_eq_some_iff]
  constructor
  · rintro ⟨hrole, child, honly, entry, hentry, hname⟩
    have hone : child.hasOneImport = true := beq_iff_eq.mpr hentry.count
    have hchild : isImportChild child = true := Bool.and_eq_true_iff.mpr ⟨honly.holds, hone⟩
    have himp : ∀ other, isImportChild other = true → other.isUntagged = true :=
      fun other hother => (Bool.and_eq_true_iff.mp hother).1
    exact ⟨⟨hrole, child, honly.of_imp hchild himp, entry, hentry, hname⟩, honly.count⟩
  · rintro ⟨⟨hrole, child, honly, hname⟩, hcount⟩
    have huntagged := (Bool.and_eq_true_iff.mp honly.holds).1
    exact ⟨hrole, child, ⟨honly.mem, huntagged, hcount⟩, hname⟩

/-- An import with a second untagged child, which is empty. -/
def importBesideEmpty : ResolvedNode :=
  .mk [.importDecl] [] []
    [.mk [] [] [⟨.module "A", none, [.moduleImport]⟩] [], .mk [] [] [] []]

theorem exists_import_that_is_not_plain :
    ¬ ∀ node name, importDecl node = some name ↔ IsPlainImport node name := by
  intro h
  obtain ⟨-, child, honly, -⟩ := (h importBesideEmpty "A").mp rfl
  exact absurd honly.count (by decide)

end Grammar

end DeclGraph
