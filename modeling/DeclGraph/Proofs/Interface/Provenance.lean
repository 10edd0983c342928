import DeclGraph.Proofs.Interface.Window

/-!
Where the parts of a module come from: each name stands in an identifier table of the dump, at a
child of the node that its entity is read from, and each use in the subtree that it is collected
from, or in a type mentioned there.
-/

namespace DeclGraph

open Query Grammar

variable {τ α : Type}

def IdentifierEntry.Holds (entry : IdentifierEntry τ) (identifier : Identifier)
    (occurrence : Occurrence) : Prop :=
  entry.identifier = identifier ∧ occurrence ∈ entry.occurrences

namespace Node

inductive Within : Node τ → Node τ → Prop where
  | here (node : Node τ) : Within node node
  | inside {inner child node : Node τ} (hchild : child ∈ node.children) (h : Within inner child) :
      Within inner node

/-- A child of the node has the name in its identifier table. -/
def Declares (node : Node τ) (occurrence : Occurrence) (name : Name) : Prop :=
  ∃ child ∈ node.children, ∃ entry ∈ child.identifiers, entry.Holds (.entity name) occurrence

/-- The type is attached to a node of the subtree, or to an entity that is used there. -/
def Mentions (node : Node τ) (t : τ) : Prop :=
  ∃ inner, Within inner node ∧
    (t ∈ inner.types ∨
      ∃ entry ∈ inner.identifiers, ∃ name,
        entry.Holds (.entity name) .use ∧ entry.type = some t)

/-- The parts come from children of the node, each from one of its own, in their order. -/
def Yields (Source : Node τ → α → Prop) (node : Node τ) (parts : List α) : Prop :=
  ∃ sources, sources.Sublist node.children ∧ List.Forall₂ Source sources parts

end Node

namespace TypeTable

/-- References lead from the index to a slot with a name of this key. -/
def Reaches (table : TypeTable) (index : Int) (key : SymbolKey) : Prop :=
  ∃ start slot : Nat, ∃ name, index = start ∧ table.Reachable start slot ∧
    table[slot]? = some (.var name) ∧ name.key = key

variable {table : TypeTable} {slot : Nat} {key : SymbolKey}

theorem StandsFor.reaches {keys : List SymbolKey} (h : table.StandsFor slot keys)
    (hkey : key ∈ keys) : table.Reaches slot key := by
  rcases h with ⟨name, hname, rfl⟩ | ⟨-, occurrences, hlisting, hkeys⟩
  · exact ⟨slot, slot, name, rfl, .refl, hname, (List.mem_singleton.mp hkey).symm⟩
  · obtain ⟨i, hi, rfl⟩ := List.getElem_of_mem hkey
    have hlt : i < occurrences.length := hkeys.length_eq ▸ hi
    obtain ⟨name, hnames, hname⟩ := hkeys.get hlt hi
    have hreach := ((hlisting.mem_iff _).mp (List.getElem_mem hlt)).1
    obtain ⟨target, hrefers, htarget⟩ := hnames
    exact ⟨slot, target, name, rfl, hreach.tail ⟨_, hrefers⟩, htarget, hname⟩

theorem reaches_of_mem_symbolsAt (closed : table.Closed) {index : Int}
    (hkey : key ∈ table.symbolsAt index) : table.Reaches index key := by
  by_cases hindex : IsSlot table.size index
  · obtain ⟨slot, hslot, rfl⟩ := isSlot_iff.mp hindex
    exact (standsFor_symbolsAt closed hslot).reaches hkey
  · have hat : atIndex table index = .error ⟨index, table.size⟩ :=
      atIndex_eq_error_iff.mpr ⟨hindex, rfl⟩
    rw [symbolsAt, expand_bad hat] at hkey
    cases hkey

end TypeTable

/-! Uses -/

/-- The key is that of an entity used in the subtree, or of a name in a type mentioned there. -/
def UseSource (table : TypeTable) (node : Node Int) (key : SymbolKey) : Prop :=
  (∃ inner, Node.Within inner node ∧ ∃ entry ∈ inner.identifiers, ∃ occ,
    entry.Holds (.entity ⟨key, occ⟩) .use) ∨
  ∃ index, node.Mentions index ∧ table.Reaches index key

variable {table : TypeTable} {node : Node Int}

theorem UseSource.below {child : Node Int} {key : SymbolKey} (hchild : child ∈ node.children)
    (h : UseSource table child key) : UseSource table node key := by
  rcases h with ⟨inner, hinner, hentry⟩ | ⟨index, ⟨inner, hinner, hindex⟩, hreaches⟩
  · exact .inl ⟨inner, .inside hchild hinner, hentry⟩
  · exact .inr ⟨index, ⟨inner, .inside hchild hinner, hindex⟩, hreaches⟩

theorem useSource_of_mem_entryUses (closed : table.Closed) {entry : IdentifierEntry Int}
    (hentry : entry ∈ node.identifiers) {key : SymbolKey}
    (hkey : key ∈ entryUses (entry.mapType table.symbolsAt)) : UseSource table node key := by
  rcases hmapped : entry with ⟨name | name, type, occurrences⟩
  · rw [hmapped, IdentifierEntry.mapType, entryUses] at hkey
    split at hkey
    · rename_i huse
      have hholds : entry.Holds (.entity name) .use := by
        rw [hmapped]
        exact ⟨rfl, huse⟩
      rcases List.mem_cons.mp hkey with rfl | hkey
      · exact .inl ⟨node, .here node, entry, hentry, name.occ, hholds⟩
      · cases type with
        | none => cases hkey
        | some index =>
            have hmentions : node.Mentions index :=
              ⟨node, .here node, .inr ⟨entry, hentry, name, hholds, by rw [hmapped]⟩⟩
            exact .inr ⟨index, hmentions, TypeTable.reaches_of_mem_symbolsAt closed hkey⟩
    · cases hkey
  · rw [hmapped] at hkey
    cases hkey

theorem useSource_of_mem_uses (closed : table.Closed) {key : SymbolKey}
    (hkey : key ∈ uses (node.mapTypes table.symbolsAt)) : UseSource table node key := by
  induction node using Node.childInduction with
  | step node ih =>
      rw [uses_eq, List.append_assoc, List.mem_append, List.mem_append] at hkey
      simp only [Node.types_mapTypes, Node.identifiers_mapTypes, Node.children_mapTypes,
        List.flatMap_map] at hkey
      rcases hkey with htypes | hentries | hchildren
      · obtain ⟨keys, hkeys, hkey⟩ := List.mem_flatten.mp htypes
        obtain ⟨index, hindex, rfl⟩ := List.mem_map.mp hkeys
        exact .inr ⟨index, ⟨node, .here node, .inl hindex⟩,
          TypeTable.reaches_of_mem_symbolsAt closed hkey⟩
      · obtain ⟨entry, hentry, hkey⟩ := List.mem_flatMap.mp hentries
        exact useSource_of_mem_entryUses closed hentry hkey
      · obtain ⟨child, hchild, hkey⟩ := List.mem_flatMap.mp hchildren
        exact (ih child hchild hkey).below hchild

/-! Entities -/

structure FieldSource (table : TypeTable) (node : Node Int) (field : RecordField) : Prop where
  read : recordField (node.mapTypes table.symbolsAt) = some field
  name : node.Declares .recordFieldDecl ⟨field.key, field.name⟩
  uses : ∀ key ∈ field.uses, UseSource table node key

def BodySource (table : TypeTable) (node : Node Int) : ConstructorBody → Prop
  | .naked uses => ∀ key ∈ uses, UseSource table node key
  | .record fields => ∃ container ∈ node.children, container.Yields (FieldSource table) fields

structure ConstructorSource (table : TypeTable) (node : Node Int) (con : Constructor) : Prop where
  read : constructor (node.mapTypes table.symbolsAt) = some con
  name : node.Declares .conDecl ⟨con.key, con.name⟩
  body : BodySource table node con.body

structure DataSource (table : TypeTable) (node : Node Int) (type : DataType) : Prop where
  read : dataType (node.mapTypes table.symbolsAt) = some type
  name : node.Declares .dataDecl ⟨type.key, type.name⟩
  constructors : node.Yields (ConstructorSource table) type.constructors

def DeclSource (table : TypeTable) (node : Node Int) : Decl → Prop
  | .data type => DataSource table node type
  | .value _ => False
  | .typeClass _ => False

structure ImportSource (table : TypeTable) (node : Node Int) (name : String) : Prop where
  read : importDecl (node.mapTypes table.symbolsAt) = some name
  entry : ∃ child ∈ node.children, ∃ entry ∈ child.identifiers,
    entry.Holds (.module name) .moduleImport

structure ModuleSource (table : TypeTable) (root : Node Int) (module : Module) : Prop where
  imports : root.Yields (ImportSource table) module.imports
  decls : root.Yields (DeclSource table) module.decls

theorem Node.yields_filterMap {Source : Node Int → α → Prop} {read : ResolvedNode → Option α}
    {f : Int → List SymbolKey}
    (h : ∀ child ∈ node.children, ∀ part, read (child.mapTypes f) = some part →
      Source child part) :
    node.Yields Source ((node.mapTypes f).children.filterMap read) := by
  rw [children_mapTypes, List.filterMap_map]
  unfold Yields
  generalize node.children = children at h
  induction children with
  | nil => exact ⟨[], .slnil, .nil⟩
  | cons child children ih =>
      obtain ⟨sources, hsub, hsources⟩ := ih fun other hother => h other (.tail child hother)
      rw [List.filterMap_cons]
      cases hread : (read ∘ mapTypes f) child with
      | none => exact ⟨sources, hsub.cons child, hsources⟩
      | some part =>
          have hpart := h child List.mem_cons_self part hread
          exact ⟨child :: sources, hsub.cons_cons child, .cons hpart hsources⟩

theorem holds_of_entityEntry {f : τ → List SymbolKey} {entry : IdentifierEntry τ}
    {occurrence : Occurrence} {name : Name}
    (h : entityEntry (fun occurrences => decide (occurrence ∈ occurrences)) (entry.mapType f) =
      some name) : entry.Holds (.entity name) occurrence := by
  rcases entry with ⟨name' | name', type, occurrences⟩
  · rw [IdentifierEntry.mapType, entityEntry] at h
    split at h
    · rename_i hmem
      cases h
      exact ⟨rfl, of_decide_eq_true hmem⟩
    · cases h
  · cases h

theorem holds_of_importedModule {f : τ → List SymbolKey} {entry : IdentifierEntry τ}
    {name : String} (h : importedModule (entry.mapType f) = some name) :
    entry.Holds (.module name) .moduleImport := by
  rcases entry with ⟨name' | name', type, occurrences⟩
  · cases h
  · rw [IdentifierEntry.mapType, importedModule] at h
    split at h
    · rename_i hmem
      cases h
      exact ⟨rfl, hmem⟩
    · cases h

/-- The name that exactly one child declares stands in the table of that child. -/
theorem declares_of_uniqueNameChild {f : Int → List SymbolKey} {occurrence : Occurrence}
    {name : Name} (h : uniqueNameChild occurrence (node.mapTypes f) = some name) :
    node.Declares occurrence name := by
  rw [uniqueNameChild_eq, Node.children_mapTypes, List.filterMap_map] at h
  obtain ⟨child, hchild, hname⟩ := exists_mem_of_theOnly_filterMap h
  rw [Function.comp_apply, declaredName_eq, Node.identifiers_mapTypes, List.filterMap_map] at hname
  obtain ⟨entry, hentry, hholds⟩ := exists_mem_of_theOnly_filterMap hname
  exact ⟨child, hchild, entry, hentry, holds_of_entityEntry hholds⟩

theorem fieldSource_of_recordField (closed : table.Closed) {field : RecordField}
    (h : recordField (node.mapTypes table.symbolsAt) = some field) :
    FieldSource table node field := by
  obtain ⟨name, hname, rfl⟩ := Option.map_eq_some_iff.mp h
  exact ⟨h, declares_of_uniqueNameChild hname, fun _ => useSource_of_mem_uses closed⟩

theorem yields_of_recordFields (closed : table.Closed) {fields : List RecordField}
    (h : recordFields (node.mapTypes table.symbolsAt) = some fields) :
    node.Yields (FieldSource table) fields := by
  obtain ⟨rfl, -⟩ := (recordFields_eq_some_iff _).mp h
  exact Node.yields_filterMap fun _ _ _ => fieldSource_of_recordField closed

theorem constructorSource_of_constructor (closed : table.Closed) {con : Constructor}
    (h : constructor (node.mapTypes table.symbolsAt) = some con) :
    ConstructorSource table node con := by
  have hread := h
  rw [constructor_eq] at h
  obtain ⟨name, hname, rfl⟩ := Option.map_eq_some_iff.mp h
  refine ⟨hread, declares_of_uniqueNameChild hname, ?_⟩
  cases hfields : fieldContainer (node.mapTypes table.symbolsAt) with
  | none => exact fun _ => useSource_of_mem_uses closed
  | some fields =>
      rw [fieldContainer_eq, Node.children_mapTypes, List.filterMap_map] at hfields
      obtain ⟨container, hcontainer, hfields⟩ := exists_mem_of_theOnly_filterMap hfields
      exact ⟨container, hcontainer, yields_of_recordFields closed hfields⟩

theorem dataSource_of_dataType (closed : table.Closed) {type : DataType}
    (h : dataType (node.mapTypes table.symbolsAt) = some type) : DataSource table node type := by
  have hread := h
  rw [dataType_eq] at h
  obtain ⟨name, hname, rfl⟩ := Option.map_eq_some_iff.mp h
  exact ⟨hread, declares_of_uniqueNameChild hname,
    Node.yields_filterMap fun _ _ _ => constructorSource_of_constructor closed⟩

theorem importSource_of_importDecl {name : String}
    (h : importDecl (node.mapTypes table.symbolsAt) = some name) :
    ImportSource table node name := by
  have hread := h
  rw [importDecl_eq, Option.ite_none_right_eq_some, Node.children_mapTypes,
    List.filterMap_map] at h
  obtain ⟨child, hchild, hname⟩ := exists_mem_of_theOnly_filterMap h.2
  rw [Function.comp_apply, importChild_eq, Option.ite_none_right_eq_some, importedName_eq,
    Node.identifiers_mapTypes, List.filterMap_map] at hname
  obtain ⟨entry, hentry, hholds⟩ := exists_mem_of_theOnly_filterMap hname.2
  exact ⟨hread, child, hchild, entry, hentry, holds_of_importedModule hholds⟩

theorem importDecl_of_item {resolved : ResolvedNode} {name : String}
    (h : item resolved = some (.imported name)) : importDecl resolved = some name := by
  rw [item_eq] at h
  split at h
  · rename_i name' hname
    cases h
    exact hname
  · obtain ⟨type, -, htype⟩ := Option.map_eq_some_iff.mp h
    cases htype

theorem moduleSource_of_moduleBody (closed : table.Closed) {name path : String} {module : Module}
    (h : moduleBody name path (node.mapTypes table.symbolsAt) = some module) :
    ModuleSource table node module := by
  obtain ⟨-, rfl⟩ := (moduleBody_eq_some_iff _).mp h
  simp only [List.filterMap_filterMap]
  constructor
  case imports =>
    refine Node.yields_filterMap fun child _ imported himported => ?_
    obtain ⟨found, hfound, himported⟩ := Option.bind_eq_some_iff.mp himported
    cases found with
    | declared decl => cases himported
    | imported name =>
        cases himported
        exact importSource_of_importDecl (importDecl_of_item hfound)
  case decls =>
    refine Node.yields_filterMap fun child _ decl hdecl => ?_
    obtain ⟨found, hfound, hdecl⟩ := Option.bind_eq_some_iff.mp hdecl
    cases found with
    | imported name => cases hdecl
    | declared decl' =>
        cases hdecl
        obtain ⟨type, htype, rfl⟩ := dataType_of_item hfound
        exact dataSource_of_dataType closed htype

namespace Interface

/-- Every name and key of a module is taken from the dump, in the role that the dump gives it. -/
theorem exists_moduleSource (dump : Interface) (module : Module)
    (h : dump.parse = .ok (some module)) :
    ∃ root ∈ dump.roots, dump.readRoot root = some module ∧
      ModuleSource dump.types root module := by
  have closed := closed_of_parse_eq_ok h
  rw [parse_eq_ok closed, Except.ok.injEq] at h
  obtain ⟨root, hroot, hmodule⟩ := exists_mem_of_theOnly_filterMap h
  exact ⟨root, hroot, hmodule, moduleSource_of_moduleBody closed.types hmodule⟩

def windowModule : Module where
  name := "M"
  path := "M.hs"
  imports := ["A"]
  decls := [.data ⟨⟨1⟩, "x", [⟨⟨2⟩, "x", .record [⟨⟨3⟩, "x", [⟨20⟩, ⟨30⟩]⟩]⟩]⟩]

theorem exists_moduleSource_windowDump :
    windowDump.parse = .ok (some windowModule) ∧
      ∃ root ∈ windowDump.roots, windowDump.readRoot root = some windowModule ∧
        ModuleSource windowDump.types root windowModule := by
  have hparse : windowDump.parse = .ok (some windowModule) := by cbv
  exact ⟨hparse, exists_moduleSource windowDump windowModule hparse⟩

end Interface

end DeclGraph
