import DeclGraph.Proofs.Grammar.UseBlocks
import DeclGraph.Proofs.Matching

/-!
What the grammar makes of two trees that are alike. A notion of likeness says when two names, two
use lists and two lists of siblings count as alike. Each production reads like values off like
nodes, and looks at no more levels of the trees than have to be alike.
-/

namespace DeclGraph

structure Likeness where
  arrangement : Arrangement
  name : Name → Name → Prop
  imported : String → String → Prop
  uses : Uses → Uses → Prop

namespace Likeness

variable {τ σ : Type} (like : Likeness)

def Identifiers : Identifier → Identifier → Prop
  | .entity name, .entity name' => like.name name name'
  | .module name, .module name' => like.imported name name'
  | _, _ => False

structure Entries (entry : IdentifierEntry τ) (entry' : IdentifierEntry σ) : Prop where
  identifier : like.Identifiers entry.identifier entry'.identifier
  occurrences : SameSet entry.occurrences entry'.occurrences

/-- Alike but for the children. Uses are compared for the whole subtree, as they may come from below
every level that is looked at. -/
structure Heads (tagged : Nat) (node node' : ResolvedNode) : Prop where
  annotations : 0 < tagged → SameSet node.annotations node'.annotations
  identifiers : like.arrangement.Match like.Entries node.identifiers node'.identifiers
  uses : like.uses (Grammar.uses node) (Grammar.uses node')

/-- Alike down to `depth`, where the annotations of the first `tagged` levels count. -/
def Nodes : (tagged depth : Nat) → ResolvedNode → ResolvedNode → Prop
  | tagged, 0, node, node' => like.Heads tagged node node'
  | tagged, depth + 1, node, node' =>
    like.Heads tagged node node' ∧
      like.arrangement.Match (Nodes (tagged - 1) depth) node.children node'.children

structure Fields (field field' : RecordField) : Prop where
  name : like.name ⟨field.key, field.name⟩ ⟨field'.key, field'.name⟩
  uses : like.uses field.uses field'.uses

def Bodies : ConstructorBody → ConstructorBody → Prop
  | .naked uses, .naked uses' => like.uses uses uses'
  | .record fields, .record fields' => like.arrangement.Match like.Fields fields fields'
  | _, _ => False

structure Constructors (con con' : Constructor) : Prop where
  name : like.name ⟨con.key, con.name⟩ ⟨con'.key, con'.name⟩
  body : like.Bodies con.body con'.body

structure DataTypes (type type' : DataType) : Prop where
  name : like.name ⟨type.key, type.name⟩ ⟨type'.key, type'.name⟩
  constructors : like.arrangement.Match like.Constructors type.constructors type'.constructors

def Decls : Decl → Decl → Prop
  | .data type, .data type' => like.DataTypes type type'
  | _, _ => False

structure Modules (module module' : Module) : Prop where
  name : module.name = module'.name
  path : module.path = module'.path
  imports : like.arrangement.Match like.imported module.imports module'.imports
  decls : like.arrangement.Match like.Decls module.decls module'.decls

def Items : Grammar.Item → Grammar.Item → Prop
  | .imported name, .imported name' => like.imported name name'
  | .declared decl, .declared decl' => like.Decls decl decl'
  | _, _ => False

variable {like} {tagged depth : Nat} {node node' : ResolvedNode}

namespace Nodes

theorem heads (h : like.Nodes tagged depth node node') : like.Heads tagged node node' := by
  cases depth with
  | zero => exact h
  | succ depth => exact h.1

theorem children (h : like.Nodes tagged (depth + 1) node node') :
    like.arrangement.Match (like.Nodes (tagged - 1) depth) node.children node'.children := h.2

end Nodes

open Grammar Query

theorem Entries.entityEntry {entry entry' : ResolvedEntry} (h : like.Entries entry entry')
    (occurrence : Occurrence) :
    Option.Rel like.name
      (entityEntry (fun occurrences => decide (occurrence ∈ occurrences)) entry)
      (entityEntry (fun occurrences => decide (occurrence ∈ occurrences)) entry') := by
  obtain ⟨hidentifier, hoccurrences⟩ := h
  rcases entry with ⟨name | name, type, occurrences⟩ <;>
    rcases entry' with ⟨name' | name', type', occurrences'⟩
  · simp only [Grammar.entityEntry, decide_eq_true_eq, hoccurrences occurrence]
    split
    · exact .some hidentifier
    · exact .none
  · cases hidentifier
  · cases hidentifier
  · exact .none

theorem Entries.importedModule {entry entry' : ResolvedEntry} (h : like.Entries entry entry') :
    Option.Rel like.imported (importedModule entry) (importedModule entry') := by
  obtain ⟨hidentifier, hoccurrences⟩ := h
  rcases entry with ⟨name | name, type, occurrences⟩ <;>
    rcases entry' with ⟨name' | name', type', occurrences'⟩
  · exact .none
  · cases hidentifier
  · cases hidentifier
  · simp only [Grammar.importedModule, hoccurrences .moduleImport]
    split
    · exact .some hidentifier
    · exact .none

namespace Nodes

theorem declaredName (h : like.Nodes tagged depth node node') (occurrence : Occurrence) :
    Option.Rel like.name
      (declaredName (fun occurrences => decide (occurrence ∈ occurrences)) node)
      (declaredName (fun occurrences => decide (occurrence ∈ occurrences)) node') := by
  rw [declaredName_eq, declaredName_eq]
  exact (h.heads.identifiers.filterMap fun _ _ hentry => hentry.entityEntry occurrence).theOnly

theorem uniqueNameChild (h : like.Nodes tagged (depth + 1) node node')
    (occurrence : Occurrence) :
    Option.Rel like.name (uniqueNameChild occurrence node) (uniqueNameChild occurrence node') := by
  rw [uniqueNameChild_eq, uniqueNameChild_eq]
  exact (h.children.filterMap fun _ _ hchild => hchild.declaredName occurrence).theOnly

theorem recordField (h : like.Nodes tagged (depth + 1) node node') :
    Option.Rel like.Fields (recordField node) (recordField node') :=
  optionRel_map (h.uniqueNameChild .recordFieldDecl) fun _ _ hname => ⟨hname, h.heads.uses⟩

theorem recordFields (h : like.Nodes tagged (depth + 2) node node') :
    Option.Rel (like.arrangement.Match like.Fields) (recordFields node) (recordFields node') := by
  have hfields := h.children.filterMap fun _ _ hchild => hchild.recordField
  rw [recordFields_eq, recordFields_eq, hfields.isEmpty_eq]
  split
  · exact .none
  · exact .some hfields

theorem fieldContainer (h : like.Nodes tagged (depth + 3) node node') :
    Option.Rel (like.arrangement.Match like.Fields) (fieldContainer node)
      (fieldContainer node') := by
  rw [fieldContainer_eq, fieldContainer_eq]
  exact (h.children.filterMap fun _ _ hchild => hchild.recordFields).theOnly

/-- Whether a constructor is a record is decided three levels below it. -/
theorem constructor (h : like.Nodes tagged (depth + 3) node node') :
    Option.Rel like.Constructors (constructor node) (constructor node') := by
  rw [constructor_eq, constructor_eq]
  refine optionRel_map (h.uniqueNameChild .conDecl) fun name name' hname => ⟨hname, ?_⟩
  exact optionRel_elim h.fieldContainer h.heads.uses fun _ _ hfields => hfields

theorem dataType (h : like.Nodes tagged (depth + 4) node node') :
    Option.Rel like.DataTypes (dataType node) (dataType node') := by
  rw [dataType_eq, dataType_eq]
  refine optionRel_map (h.uniqueNameChild .dataDecl) fun name name' hname => ⟨hname, ?_⟩
  exact h.children.filterMap fun _ _ hchild => hchild.constructor

theorem importChild (h : like.Nodes (tagged + 1) depth node node') :
    Option.Rel like.imported (importChild node) (importChild node') := by
  have hannotations := h.heads.annotations (Nat.succ_pos tagged)
  rw [importChild_eq, importChild_eq, importedName_eq, importedName_eq]
  simp only [hannotations.eq_nil_iff]
  split
  · exact (h.heads.identifiers.filterMap fun _ _ hentry => hentry.importedModule).theOnly
  · exact .none

theorem importDecl (h : like.Nodes (tagged + 2) (depth + 1) node node') :
    Option.Rel like.imported (importDecl node) (importDecl node') := by
  have hannotations := h.heads.annotations (Nat.succ_pos (tagged + 1))
  rw [importDecl_eq, importDecl_eq]
  simp only [hannotations .importDecl]
  split
  · exact (h.children.filterMap fun _ _ hchild => hchild.importChild).theOnly
  · exact .none

theorem item (h : like.Nodes (tagged + 2) (depth + 4) node node') :
    Option.Rel like.Items (item node) (item node') := by
  have himport := h.importDecl
  rw [item_eq, item_eq]
  generalize Grammar.importDecl node = name at himport
  generalize Grammar.importDecl node' = name' at himport
  cases himport with
  | some hname => exact .some hname
  | none => exact optionRel_map h.dataType fun _ _ htype => htype

end Nodes

theorem Items.import? {found found' : Item} (h : like.Items found found') :
    Option.Rel like.imported found.import? found'.import? := by
  cases found <;> cases found'
  · exact .some h
  · cases h
  · cases h
  · exact .none

theorem Items.decl? {found found' : Item} (h : like.Items found found') :
    Option.Rel like.Decls found.decl? found'.decl? := by
  cases found <;> cases found'
  · exact .none
  · cases h
  · cases h
  · exact .some h

/-- Module roots that are alike down to depth five, and in the annotations of their first three
levels, are read as like modules. -/
theorem Nodes.moduleBody (h : like.Nodes (tagged + 3) (depth + 5) node node')
    (name path : String) :
    Option.Rel like.Modules (moduleBody name path node) (moduleBody name path node') := by
  have hannotations := h.heads.annotations (Nat.succ_pos (tagged + 2))
  rw [moduleBody_eq, moduleBody_eq]
  simp only [hannotations .moduleRoot]
  split
  · have hitems := h.children.filterMap fun _ _ hchild => hchild.item
    exact .some ⟨rfl, rfl, hitems.filterMap fun _ _ => Items.import?,
      hitems.filterMap fun _ _ => Items.decl?⟩
  · exact .none

end Likeness

end DeclGraph
