import Mathlib.Data.List.Basic
import DeclGraph.Proofs.Grammar.UseBlocks
import DeclGraph.Proofs.Interface.Outcome

/-!
Modules as trees. Each declaration has a canonical tree; the grammar reads a module back from the
trees of its parts, and never yields a module without one.
-/

namespace DeclGraph

/-- A declaration that has a canonical tree: a data type, whose records have a field. -/
def Decl.IsEncodable : Decl → Prop
  | .data type => ∀ con ∈ type.constructors, con.body ≠ .record []
  | .value _ => False
  | .typeClass _ => False

instance : DecidablePred Decl.IsEncodable
  | .data type =>
    inferInstanceAs (Decidable (∀ con ∈ type.constructors, con.body ≠ .record []))
  | .value _ => .isFalse id
  | .typeClass _ => .isFalse id

def Module.IsEncodable (module : Module) : Prop := ∀ decl ∈ module.decls, decl.IsEncodable

instance (module : Module) : Decidable module.IsEncodable :=
  inferInstanceAs (Decidable (∀ decl ∈ module.decls, decl.IsEncodable))

theorem Decl.IsEncodable.exists_data {decl : Decl} (h : decl.IsEncodable) :
    ∃ type, decl = .data type := by
  cases decl with
  | data type => exact ⟨type, rfl⟩
  | value binding => cases h
  | typeClass typeClass => cases h

namespace Grammar

open Query

/-! Canonical trees -/

/-- A leaf whose only identifier is an entity, in a single occurrence. -/
def entityNode (occurrence : Occurrence) (key : SymbolKey) (occ : String) : ResolvedNode :=
  .mk [] [] [⟨.entity ⟨key, occ⟩, none, [occurrence]⟩] []

def groupNode (children : List ResolvedNode) : ResolvedNode := .mk [] [] [] children

theorem children_groupNode (children : List ResolvedNode) :
    (groupNode children).children = children := rfl

def importNode (name : String) : ResolvedNode :=
  .mk [.importDecl] [] [] [.mk [] [] [⟨.module name, none, [.moduleImport]⟩] []]

section Encoding

-- How used entities are written; the grammar keeps their keys only.
variable (spelling : SymbolKey → String)

def useNodes (keys : Uses) : List ResolvedNode :=
  keys.map fun key => entityNode .use key (spelling key)

def fieldNode (field : RecordField) : ResolvedNode :=
  groupNode (entityNode .recordFieldDecl field.key field.name :: useNodes spelling field.uses)

/-- A naked body has its uses beside the name of the constructor; the fields of a record share one
node. -/
def bodyNodes : ConstructorBody → List ResolvedNode
  | .naked uses => useNodes spelling uses
  | .record fields => [groupNode (fields.map (fieldNode spelling))]

def constructorNode (con : Constructor) : ResolvedNode :=
  groupNode (entityNode .conDecl con.key con.name :: bodyNodes spelling con.body)

def dataNode (type : DataType) : ResolvedNode :=
  groupNode (entityNode .dataDecl type.key type.name ::
    type.constructors.map (constructorNode spelling))

def partNode : String ⊕ DataType → ResolvedNode
  | .inl name => importNode name
  | .inr type => dataNode spelling type

/-- The root of a module that has the given parts, in their order. -/
def rootNode (parts : List (String ⊕ DataType)) : ResolvedNode :=
  .mk [.moduleRoot] [] [] (parts.map (partNode spelling))

end Encoding

/-! Names -/

variable {spelling : SymbolKey → String}

theorem declaredName_entityNode (accepts : List Occurrence → Bool) (occurrence : Occurrence)
    (key : SymbolKey) (occ : String) :
    declaredName accepts (entityNode occurrence key occ) =
      if accepts [occurrence] then some ⟨key, occ⟩ else none := by
  rw [declaredName_eq]
  by_cases h : accepts [occurrence] <;>
    simp [entityNode, Node.identifiers, entityEntry, h, theOnly]

theorem declaredName_groupNode (accepts : List Occurrence → Bool) (children : List ResolvedNode) :
    declaredName accepts (groupNode children) = none := by
  rw [declaredName_eq]
  rfl

theorem declaredName_useNodes {occurrence : Occurrence} (hne : occurrence ≠ .use)
    (spelling : SymbolKey → String) (keys : Uses) : ∀ node ∈ useNodes spelling keys,
      declaredName (fun occurrences => decide (occurrence ∈ occurrences)) node = none := by
  intro node hnode
  obtain ⟨key, -, rfl⟩ := List.mem_map.mp hnode
  simp [declaredName_entityNode, hne]

/-- The name child is found when no other child declares a name of its role. -/
theorem uniqueNameChild_cons (occurrence : Occurrence) (key : SymbolKey) (occ : String)
    {rest : List ResolvedNode}
    (h : ∀ node ∈ rest,
      declaredName (fun occurrences => decide (occurrence ∈ occurrences)) node = none) :
    uniqueNameChild occurrence (groupNode (entityNode occurrence key occ :: rest)) =
      some ⟨key, occ⟩ := by
  rw [uniqueNameChild_eq]
  have hrest : rest.filterMap
      (declaredName fun occurrences => decide (occurrence ∈ occurrences)) = [] :=
    List.filterMap_eq_nil_iff.mpr h
  simp [groupNode, Node.children, declaredName_entityNode, hrest, theOnly]

theorem uniqueNameChild_entityNode (occurrence occurrence' : Occurrence) (key : SymbolKey)
    (occ : String) : uniqueNameChild occurrence (entityNode occurrence' key occ) = none := by
  rw [uniqueNameChild_eq]
  rfl

/-! Uses -/

theorem uses_entityNode_use (key : SymbolKey) (occ : String) :
    uses (entityNode .use key occ) = [key] := by
  simp [entityNode, uses, entryUses, usesAll]

theorem uses_entityNode {occurrence : Occurrence} (hne : occurrence ≠ .use) (key : SymbolKey)
    (occ : String) : uses (entityNode occurrence key occ) = [] := by
  simp [entityNode, uses, entryUses, usesAll, hne.symm]

theorem flatMap_uses_useNodes (keys : Uses) : (useNodes spelling keys).flatMap uses = keys := by
  induction keys with
  | nil => rfl
  | cons key keys ih =>
      rw [useNodes, List.map_cons, List.flatMap_cons, uses_entityNode_use]
      exact congrArg (key :: ·) ih

theorem uses_groupNode_useNodes {occurrence : Occurrence} (hne : occurrence ≠ .use)
    (key : SymbolKey) (occ : String) (keys : Uses) :
    uses (groupNode (entityNode occurrence key occ :: useNodes spelling keys)) = keys := by
  rw [uses_eq]
  simp [groupNode, Node.types, Node.identifiers, Node.children, uses_entityNode hne,
    flatMap_uses_useNodes]

/-! Fields and constructors -/

theorem filterMap_map_eq_self {α β : Type} {read : β → Option α} {write : α → β} {as : List α}
    (h : ∀ a ∈ as, read (write a) = some a) : (as.map write).filterMap read = as := by
  rw [List.filterMap_map]
  exact (List.filterMap_congr h).trans List.filterMap_some

theorem recordField_fieldNode (field : RecordField) :
    recordField (fieldNode spelling field) = some field := by
  have hname := uniqueNameChild_cons .recordFieldDecl field.key field.name
    (declaredName_useNodes (by decide) spelling field.uses)
  rw [recordField, fieldNode, hname, uses_groupNode_useNodes (by decide)]
  rfl

theorem recordFields_entityNode (occurrence : Occurrence) (key : SymbolKey) (occ : String) :
    recordFields (entityNode occurrence key occ) = none := by
  rw [recordFields_eq]
  rfl

theorem recordFields_fieldNodes {fields : List RecordField} (hne : fields ≠ []) :
    recordFields (groupNode (fields.map (fieldNode spelling))) = some fields := by
  have hfields : (fields.map (fieldNode spelling)).filterMap recordField = fields :=
    filterMap_map_eq_self fun field _ => recordField_fieldNode field
  exact (recordFields_eq_some_iff _).mpr ⟨hfields.symm, hne⟩

theorem filterMap_recordFields_bodyNodes {body : ConstructorBody} (hne : body ≠ .record []) :
    (bodyNodes spelling body).filterMap recordFields =
      match body with
      | .naked _ => []
      | .record fields => [fields] := by
  cases body with
  | naked keys =>
      refine List.filterMap_eq_nil_iff.mpr fun node hnode => ?_
      obtain ⟨key, -, rfl⟩ := List.mem_map.mp hnode
      exact recordFields_entityNode _ _ _
  | record fields =>
      have hfields : fields ≠ [] := fun hnil => hne (congrArg ConstructorBody.record hnil)
      simp [bodyNodes, recordFields_fieldNodes hfields]

theorem declaredName_bodyNodes {occurrence : Occurrence} (hne : occurrence ≠ .use)
    (spelling : SymbolKey → String) (body : ConstructorBody) : ∀ node ∈ bodyNodes spelling body,
      declaredName (fun occurrences => decide (occurrence ∈ occurrences)) node = none := by
  intro node hnode
  cases body with
  | naked keys => exact declaredName_useNodes hne spelling keys node hnode
  | record fields =>
      rw [List.mem_singleton.mp hnode]
      exact declaredName_groupNode _ _

theorem constructor_entityNode (occurrence : Occurrence) (key : SymbolKey) (occ : String) :
    constructor (entityNode occurrence key occ) = none := by
  rw [constructor_eq, uniqueNameChild_entityNode]
  rfl

theorem constructor_constructorNode {con : Constructor} (hne : con.body ≠ .record []) :
    constructor (constructorNode spelling con) = some con := by
  have hname := uniqueNameChild_cons .conDecl con.key con.name
    (declaredName_bodyNodes (by decide) spelling con.body)
  have hfields : fieldContainer (constructorNode spelling con) =
      theOnly ((bodyNodes spelling con.body).filterMap recordFields) := by
    rw [fieldContainer_eq]
    simp [constructorNode, groupNode, Node.children, recordFields_entityNode]
  rw [constructor_eq, hfields, filterMap_recordFields_bodyNodes hne, constructorNode, hname]
  cases con with
  | mk key name body =>
      cases body with
      | naked keys => simp [theOnly, bodyNodes, uses_groupNode_useNodes]
      | record fields => rfl

/-! Parts -/

theorem dataType_dataNode {type : DataType}
    (hne : ∀ con ∈ type.constructors, con.body ≠ .record []) :
    dataType (dataNode spelling type) = some type := by
  have hrest : ∀ node ∈ type.constructors.map (constructorNode spelling),
      declaredName (fun occurrences => decide (.dataDecl ∈ occurrences)) node = none := by
    intro node hnode
    obtain ⟨con, -, rfl⟩ := List.mem_map.mp hnode
    exact declaredName_groupNode _ _
  have hname := uniqueNameChild_cons .dataDecl type.key type.name hrest
  have hcons : (type.constructors.map (constructorNode spelling)).filterMap constructor =
      type.constructors :=
    filterMap_map_eq_self fun con hcon => constructor_constructorNode (hne con hcon)
  rw [dataType_eq, dataNode, hname, children_groupNode,
    List.filterMap_cons_none (constructor_entityNode _ _ _), hcons]
  rfl

theorem importDecl_importNode (name : String) : importDecl (importNode name) = some name := by
  rw [importDecl_eq]
  simp [importNode, Node.annotations, Node.children, importChild_eq, importedName_eq,
    Node.identifiers, importedModule, theOnly]

theorem importDecl_groupNode (children : List ResolvedNode) :
    importDecl (groupNode children) = none := by
  rw [importDecl_eq]
  simp [groupNode, Node.annotations]

def partItem : String ⊕ DataType → Item
  | .inl name => .imported name
  | .inr type => .declared (.data type)

theorem item_partNode {part : String ⊕ DataType}
    (hne : ∀ type, part = .inr type → ∀ con ∈ type.constructors, con.body ≠ .record []) :
    item (partNode spelling part) = some (partItem part) := by
  rw [item_eq]
  cases part with
  | inl name => rw [partNode, importDecl_importNode]; rfl
  | inr type =>
      rw [partNode, dataType_dataNode (hne type rfl), dataNode, importDecl_groupNode]
      rfl

theorem filterMap_import?_partItem (parts : List (String ⊕ DataType)) :
    (parts.map partItem).filterMap Item.import? = parts.filterMap Sum.getLeft? := by
  rw [List.filterMap_map]
  apply List.filterMap_congr
  rintro (name | type) _ <;> rfl

theorem filterMap_decl?_partItem (parts : List (String ⊕ DataType)) :
    (parts.map partItem).filterMap Item.decl? = (parts.filterMap Sum.getRight?).map Decl.data := by
  rw [List.filterMap_map, List.map_filterMap]
  apply List.filterMap_congr
  rintro (name | type) _ <;> rfl

end Grammar

namespace Module

theorem IsEncodable.decls_eq {module : Module} (h : module.IsEncodable) :
    module.decls = module.dataTypes.map Decl.data := by
  rw [dataTypes, List.map_filterMap]
  symm
  refine (List.filterMap_congr fun decl hdecl => ?_).trans List.filterMap_some
  obtain ⟨type, rfl⟩ := (h decl hdecl).exists_data
  rfl

theorem IsEncodable.body_ne {module : Module} (h : module.IsEncodable) {type : DataType}
    (htype : type ∈ module.dataTypes) : ∀ con ∈ type.constructors, con.body ≠ .record [] := by
  obtain ⟨decl, hdecl, hdata⟩ := List.mem_filterMap.mp htype
  obtain ⟨type', rfl⟩ := (h decl hdecl).exists_data
  cases hdata
  exact h _ hdecl

end Module

namespace Grammar

open Query

variable {spelling : SymbolKey → String}

/-- The canonical tree of a module is read back as the module. -/
theorem moduleBody_rootNode {module : Module} (h : module.IsEncodable)
    {parts : List (String ⊕ DataType)}
    (himports : parts.filterMap Sum.getLeft? = module.imports)
    (hdata : parts.filterMap Sum.getRight? = module.dataTypes) :
    moduleBody module.name module.path (rootNode spelling parts) = some module := by
  have hitems : (rootNode spelling parts).children.filterMap item = parts.map partItem := by
    rw [rootNode, Node.children, List.filterMap_map, ← List.filterMap_eq_map]
    refine List.filterMap_congr fun part hpart => item_partNode fun type htype => h.body_ne ?_
    rw [← hdata]
    exact List.mem_filterMap.mpr ⟨part, hpart, by rw [htype]; rfl⟩
  rw [moduleBody_eq, hitems, filterMap_import?_partItem, filterMap_decl?_partItem, himports, hdata,
    ← h.decls_eq]
  exact if_pos (List.mem_singleton_self Annotation.moduleRoot)

/-! What the grammar yields -/

variable {node : ResolvedNode}

theorem body_ne_of_constructor {con : Constructor} (h : constructor node = some con) :
    con.body ≠ .record [] := by
  rw [constructor_eq] at h
  obtain ⟨name, -, rfl⟩ := Option.map_eq_some_iff.mp h
  cases hfields : fieldContainer node with
  | none => simp
  | some fields =>
      rw [fieldContainer_eq] at hfields
      obtain ⟨child, -, hchild⟩ := exists_mem_of_theOnly_filterMap hfields
      have hne := ((recordFields_eq_some_iff child).mp hchild).2
      simp [hne]

theorem isEncodable_of_moduleBody {name path : String} {module : Module}
    (h : moduleBody name path node = some module) : module.IsEncodable := by
  obtain ⟨-, rfl⟩ := (moduleBody_eq_some_iff node).mp h
  intro decl hdecl
  obtain ⟨found, hfound, hdecl⟩ := List.mem_filterMap.mp hdecl
  obtain ⟨child, -, hchild⟩ := List.mem_filterMap.mp hfound
  cases found with
  | imported name => cases hdecl
  | declared decl' =>
      cases hdecl
      obtain ⟨type, htype, rfl⟩ := dataType_of_item hchild
      rw [dataType_eq] at htype
      obtain ⟨name, -, rfl⟩ := Option.map_eq_some_iff.mp htype
      intro con hcon
      obtain ⟨conNode, -, hconNode⟩ := List.mem_filterMap.mp hcon
      exact body_ne_of_constructor hconNode

/-- The grammar reads a module back from its parts in any order that keeps the imports and the data
types in theirs, and yields modules of this kind only. -/
theorem moduleBody_encode_and_image :
    (∀ (module : Module), module.IsEncodable →
      ∀ (spelling : SymbolKey → String) (parts : List (String ⊕ DataType)),
        parts.filterMap Sum.getLeft? = module.imports →
        parts.filterMap Sum.getRight? = module.dataTypes →
        moduleBody module.name module.path (rootNode spelling parts) = some module) ∧
    (∀ (dump : Interface) (module : Module), dump.parse = .ok (some module) →
      module.IsEncodable) := by
  constructor
  · intro module h spelling parts himports hdata
    exact moduleBody_rootNode h himports hdata
  · intro dump module h
    obtain ⟨-, -, root, -, hroot⟩ := Interface.exists_root_of_parse_eq_ok h
    exact isEncodable_of_moduleBody hroot

/-- A data type with a naked constructor and a record, before and after imports. -/
def treeParts : List (String ⊕ DataType) :=
  [.inl "Data.List",
    .inr ⟨⟨1⟩, "Tree", [
      ⟨⟨2⟩, "Leaf", .naked []⟩,
      ⟨⟨3⟩, "Node", .record [⟨⟨4⟩, "value", [⟨10⟩, ⟨10⟩]⟩, ⟨⟨5⟩, "next", [⟨1⟩]⟩]⟩]⟩,
    .inl "Data.Map",
    .inr ⟨⟨6⟩, "Void", []⟩]

def treeModule : Module where
  name := "Data.Tree"
  path := "src/Data/Tree.hs"
  imports := ["Data.List", "Data.Map"]
  decls := (treeParts.filterMap Sum.getRight?).map Decl.data

theorem moduleBody_encode_treeModule :
    treeModule.IsEncodable ∧
      treeParts.filterMap Sum.getLeft? = treeModule.imports ∧
      treeParts.filterMap Sum.getRight? = treeModule.dataTypes ∧
      moduleBody treeModule.name treeModule.path (rootNode SymbolKey.text treeParts) =
        some treeModule :=
  ⟨by decide, rfl, rfl, moduleBody_encode_and_image.1 treeModule (by decide) _ treeParts rfl rfl⟩

end Grammar

end DeclGraph
