import DeclGraph.Proofs.Grammar.ConstructorForm

/-!
Input that no production matches. Every child of a module root contributes on its own, and children
that contribute nothing may be deleted: below the root, in data types, in records and among their
fields.
-/

namespace DeclGraph

namespace Node

variable {τ : Type}

def withChildren (node : Node τ) (children : List (Node τ)) : Node τ :=
  mk node.annotations node.types node.identifiers children

variable (node : Node τ) (children : List (Node τ))

@[simp] theorem annotations_withChildren :
    (node.withChildren children).annotations = node.annotations := rfl

@[simp] theorem identifiers_withChildren :
    (node.withChildren children).identifiers = node.identifiers := rfl

@[simp] theorem children_withChildren : (node.withChildren children).children = children := rfl

end Node

namespace Grammar

open Query

/-- What a child of a root adds to the declarations. An import adds nothing there. -/
def declOf (node : ResolvedNode) : Option Decl :=
  if (importDecl node).isSome then none else (dataType node).map .data

/-! Trees without what no production matches -/

def pruneContainer (node : ResolvedNode) : ResolvedNode :=
  node.withChildren (node.children.filter fun child => (recordField child).isSome)

def pruneRecord (node : ResolvedNode) : ResolvedNode :=
  let kept := node.children.filter fun child => child.hasOneName .conDecl || holdsField child
  node.withChildren (kept.map fun child => if holdsField child then pruneContainer child else child)

/-- The node is read as a constructor with fields. -/
def isRecord (node : ResolvedNode) : Bool :=
  match constructor node with
  | some ⟨_, _, .record _⟩ => true
  | _ => false

/-- A naked constructor uses its whole node, of which nothing can be spared. -/
def pruneConstructor (node : ResolvedNode) : ResolvedNode :=
  if isRecord node then pruneRecord node else node

/-- A child of a data type that may not be deleted. In a node with the role of an import this is
every child, since fewer children could make it one. -/
def isPart (node child : ResolvedNode) : Bool :=
  decide (.importDecl ∈ node.annotations) || child.hasOneName .dataDecl ||
    (constructor child).isSome

def pruneData (node : ResolvedNode) : ResolvedNode :=
  node.withChildren ((node.children.filter (isPart node)).map pruneConstructor)

def pruneItem (node : ResolvedNode) : ResolvedNode :=
  if (importDecl node).isSome then node else pruneData node

/-- A root without everything that contributes nothing to its module. -/
def pruneRoot (root : ResolvedNode) : ResolvedNode :=
  let kept := root.children.filter fun child =>
    (importDecl child).isSome || (dataType child).isSome
  root.withChildren (kept.map pruneItem)

variable {node child : ResolvedNode}

/-- Values are read off a list as before when elements without a value are deleted and the others
keep theirs. -/
theorem filterMap_prune {α β : Type} {f : α → Option β} {keeps : α → Bool} {g : α → α}
    (hdeleted : ∀ a, keeps a = false → f a = none) (hkept : ∀ a, f (g a) = f a) (as : List α) :
    ((as.filter keeps).map g).filterMap f = as.filterMap f := by
  induction as with
  | nil => rfl
  | cons a as ih =>
      by_cases ha : keeps a = true
      · rw [List.filter_cons_of_pos ha, List.map_cons, List.filterMap_cons, List.filterMap_cons,
          hkept a, ih]
      · have hnone := hdeleted a (Bool.not_eq_true _ ▸ ha)
        rw [List.filter_cons_of_neg ha, List.filterMap_cons_none hnone]
        exact ih

/-! Names and roles are read off what stays of a node -/

theorem declaredName_congr {accepts : List Occurrence → Bool}
    (h : child.identifiers = node.identifiers) :
    declaredName accepts child = declaredName accepts node := by
  rw [declaredName_eq, declaredName_eq, h]

theorem declaredName_eq_none {occurrence : Occurrence}
    (h : node.hasOneName occurrence = false) :
    declaredName (fun occurrences => decide (occurrence ∈ occurrences)) node = none := by
  rw [← Option.isNone_iff_eq_none, ← Option.not_isSome, isSome_declaredName, h]
  rfl

theorem importChild_congr (hannotations : child.annotations = node.annotations)
    (hidentifiers : child.identifiers = node.identifiers) :
    importChild child = importChild node := by
  simp only [importChild_eq, importedName_eq, hannotations, hidentifiers]

theorem uniqueNameChild_prune {occurrence : Occurrence} {keeps : ResolvedNode → Bool}
    {g : ResolvedNode → ResolvedNode}
    (hkeeps : ∀ child, keeps child = false → child.hasOneName occurrence = false)
    (hg : ∀ child, (g child).identifiers = child.identifiers) :
    uniqueNameChild occurrence (node.withChildren ((node.children.filter keeps).map g)) =
      uniqueNameChild occurrence node := by
  rw [uniqueNameChild_eq, uniqueNameChild_eq, Node.children_withChildren]
  congr 1
  apply filterMap_prune
  · intro child hchild
    exact declaredName_eq_none (hkeeps child hchild)
  · intro child
    exact declaredName_congr (hg child)

/-! Records -/

theorem recordFields_eq_none (h : holdsField node = false) : recordFields node = none := by
  rw [← Option.isNone_iff_eq_none, ← Option.not_isSome, isSome_recordFields, h]
  rfl

theorem recordFields_pruneContainer (node : ResolvedNode) :
    recordFields (pruneContainer node) = recordFields node := by
  have hfields : (node.children.filter fun child => (recordField child).isSome).filterMap
      recordField = node.children.filterMap recordField := by
    rw [List.filterMap_filter]
    apply List.filterMap_congr
    intro child _
    cases hchild : recordField child <;> simp
  rw [recordFields_eq, recordFields_eq, pruneContainer, Node.children_withChildren, hfields]

theorem fieldContainer_pruneRecord (node : ResolvedNode) :
    fieldContainer (pruneRecord node) = fieldContainer node := by
  rw [fieldContainer_eq, fieldContainer_eq, pruneRecord, Node.children_withChildren]
  congr 1
  apply filterMap_prune
  · intro child hchild
    exact recordFields_eq_none (Bool.or_eq_false_iff.mp hchild).2
  · intro child
    by_cases hholds : holdsField child = true
    · rw [if_pos hholds]
      exact recordFields_pruneContainer child
    · rw [if_neg hholds]

theorem uniqueNameChild_pruneRecord (node : ResolvedNode) :
    uniqueNameChild .conDecl (pruneRecord node) = uniqueNameChild .conDecl node := by
  apply uniqueNameChild_prune
  · intro child hchild
    exact (Bool.or_eq_false_iff.mp hchild).1
  · intro child
    by_cases hholds : holdsField child = true
    · rw [if_pos hholds]
      rfl
    · rw [if_neg hholds]

theorem exists_fieldContainer_of_isRecord (h : isRecord node = true) :
    ∃ fields, fieldContainer node = some fields := by
  rw [isRecord, constructor_eq] at h
  cases hfields : fieldContainer node with
  | some fields => exact ⟨fields, rfl⟩
  | none =>
      rw [hfields] at h
      cases hname : uniqueNameChild .conDecl node <;> simp [hname] at h

theorem constructor_pruneConstructor (node : ResolvedNode) :
    constructor (pruneConstructor node) = constructor node := by
  rw [pruneConstructor]
  split
  · rename_i hrecord
    obtain ⟨fields, hfields⟩ := exists_fieldContainer_of_isRecord hrecord
    -- the uses of the whole node, which have changed, are not part of a record
    rw [constructor_eq, constructor_eq, fieldContainer_pruneRecord, hfields,
      uniqueNameChild_pruneRecord]
    rfl
  · rfl

@[simp] theorem annotations_pruneConstructor (node : ResolvedNode) :
    (pruneConstructor node).annotations = node.annotations := by
  rw [pruneConstructor]
  split <;> rfl

@[simp] theorem identifiers_pruneConstructor (node : ResolvedNode) :
    (pruneConstructor node).identifiers = node.identifiers := by
  rw [pruneConstructor]
  split <;> rfl

/-! Data types -/

theorem dataType_pruneData (node : ResolvedNode) : dataType (pruneData node) = dataType node := by
  have hname : uniqueNameChild .dataDecl (pruneData node) = uniqueNameChild .dataDecl node := by
    apply uniqueNameChild_prune
    · intro child hchild
      exact (Bool.or_eq_false_iff.mp (Bool.or_eq_false_iff.mp hchild).1).2
    · exact identifiers_pruneConstructor
  have hconstructors : (pruneData node).children.filterMap constructor =
      node.children.filterMap constructor := by
    apply filterMap_prune
    · intro child hchild
      simpa using (Bool.or_eq_false_iff.mp hchild).2
    · exact constructor_pruneConstructor
  rw [dataType_eq, dataType_eq, hname, hconstructors]

/-- Of a node in the role of an import no child is deleted, and none has changed as far as imports
look at it. -/
theorem importDecl_pruneData (node : ResolvedNode) :
    importDecl (pruneData node) = importDecl node := by
  have hannotations : (pruneData node).annotations = node.annotations := rfl
  rw [importDecl_eq, importDecl_eq, hannotations]
  split
  · rename_i hrole
    congr 1
    apply filterMap_prune
    · intro child hchild
      simp [isPart, hrole] at hchild
    · intro child
      exact importChild_congr (annotations_pruneConstructor child)
        (identifiers_pruneConstructor child)
  · rfl

theorem item_pruneItem (node : ResolvedNode) : item (pruneItem node) = item node := by
  rw [pruneItem]
  split
  · rfl
  · rw [item_eq, item_eq, importDecl_pruneData, dataType_pruneData]

/-! Module roots -/

theorem item_eq_none (himport : (importDecl node).isSome = false)
    (hdata : (dataType node).isSome = false) : item node = none := by
  rw [Option.isSome_eq_false_iff, Option.isNone_iff_eq_none] at himport hdata
  rw [item_eq, himport, hdata]
  rfl

theorem moduleBody_pruneRoot (name path : String) (root : ResolvedNode) :
    moduleBody name path (pruneRoot root) = moduleBody name path root := by
  have hannotations : (pruneRoot root).annotations = root.annotations := rfl
  have hitems : (pruneRoot root).children.filterMap item = root.children.filterMap item := by
    apply filterMap_prune
    · intro child hchild
      obtain ⟨himport, hdata⟩ := Bool.or_eq_false_iff.mp hchild
      exact item_eq_none himport hdata
    · exact item_pruneItem
  rw [moduleBody_eq, moduleBody_eq, hannotations, hitems]

theorem bind_import?_item (node : ResolvedNode) :
    (item node).bind Item.import? = importDecl node := by
  rw [item_eq]
  cases importDecl node with
  | some name => rfl
  | none => cases dataType node <;> rfl

theorem bind_decl?_item (node : ResolvedNode) : (item node).bind Item.decl? = declOf node := by
  rw [item_eq, declOf]
  cases importDecl node with
  | some name => rfl
  | none => cases dataType node <;> rfl

theorem moduleBody_eq_contributions (name path : String) {root : ResolvedNode}
    (hroot : .moduleRoot ∈ root.annotations) :
    moduleBody name path root =
      some ⟨name, path, root.children.filterMap importDecl, root.children.filterMap declOf⟩ := by
  rw [moduleBody_eq, if_pos hroot, List.filterMap_filterMap, List.filterMap_filterMap]
  simp only [bind_import?_item, bind_decl?_item]

/-- Every module root is read as a module, to which each child contributes on its own: an import, or
else a declaration, or nothing. Nothing is lost with what no production matches. -/
theorem moduleBody_contributions_and_prune (name path : String) (root : ResolvedNode)
    (hroot : .moduleRoot ∈ root.annotations) :
    moduleBody name path root =
      some ⟨name, path, root.children.filterMap importDecl, root.children.filterMap declOf⟩ ∧
    (∀ first second, ∃ module module',
      moduleBody name path (root.withChildren first) = some module ∧
      moduleBody name path (root.withChildren second) = some module' ∧
      moduleBody name path (root.withChildren (first ++ second)) =
        some ⟨name, path, module.imports ++ module'.imports, module.decls ++ module'.decls⟩) ∧
    moduleBody name path (pruneRoot root) = moduleBody name path root := by
  refine ⟨moduleBody_eq_contributions name path hroot, ?_, moduleBody_pruneRoot name path root⟩
  intro first second
  have hread : ∀ children, moduleBody name path (root.withChildren children) =
      some ⟨name, path, children.filterMap importDecl, children.filterMap declOf⟩ :=
    fun children => moduleBody_eq_contributions name path hroot
  refine ⟨_, _, hread first, hread second, ?_⟩
  rw [hread (first ++ second), List.filterMap_append, List.filterMap_append]

/-- A root with an import and a data type. Strays stand below the root, in the data type, in its
record and among the fields; a use in the naked constructor is no stray. -/
def strayRoot (strays : Int → List ResolvedNode) : ResolvedNode :=
  let leaf (occurrence : Occurrence) (key : Int) : ResolvedNode :=
    .mk [] [] [⟨.entity ⟨⟨key⟩, "x"⟩, none, [occurrence]⟩] []
  let imported := .mk [.importDecl] [] []
    [.mk [] [] [⟨.module "A", none, [.moduleImport]⟩] [], .mk [.unrecognized] [] [] []]
  let field := .mk [] [] [] [leaf .recordFieldDecl 3, leaf .use 23]
  let record := .mk [] [] [] (leaf .conDecl 2 :: strays 21 ++ [.mk [] [] [] (strays 22 ++ [field])])
  let naked := .mk [] [] [] [leaf .conDecl 4, leaf .use 24]
  let data := .mk [] [] [] (leaf .dataDecl 1 :: record :: strays 25 ++ [naked])
  .mk [.moduleRoot] [] [] (imported :: strays 20 ++ [data])

def rootWithStrays : ResolvedNode :=
  strayRoot fun key => [.mk [] [] [⟨.entity ⟨⟨key⟩, "x"⟩, none, [.use]⟩] []]

theorem moduleBody_contributions_and_prune_rootWithStrays :
    .moduleRoot ∈ rootWithStrays.annotations ∧
      moduleBody "M" "M.hs" rootWithStrays = some ⟨"M", "M.hs", ["A"], [.data ⟨⟨1⟩, "x", [
        ⟨⟨2⟩, "x", .record [⟨⟨3⟩, "x", [⟨23⟩]⟩]⟩, ⟨⟨4⟩, "x", .naked [⟨24⟩]⟩]⟩]⟩ ∧
      pruneRoot rootWithStrays = strayRoot (fun _ => []) ∧
      moduleBody "M" "M.hs" (strayRoot fun _ => []) = moduleBody "M" "M.hs" rootWithStrays := by
  have hroot : .moduleRoot ∈ rootWithStrays.annotations := by decide
  have hpruned : pruneRoot rootWithStrays = strayRoot (fun _ => []) := rfl
  obtain ⟨hread, -, hsame⟩ :=
    moduleBody_contributions_and_prune "M" "M.hs" rootWithStrays hroot
  rw [hpruned] at hsame
  exact ⟨hroot, hread, hpruned, hsame⟩

end Grammar

end DeclGraph
