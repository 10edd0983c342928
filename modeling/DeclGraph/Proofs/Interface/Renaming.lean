import DeclGraph.Proofs.Interface.Resolution

/-!
Dumps with other keys and other names. What is read from a dump never compares keys or names, so
that different ones may even be exchanged for the same.
-/

namespace DeclGraph

/-- What keys and names are exchanged for. -/
structure Renaming where
  key : Int → Int
  text : String → String

variable {τ σ : Type} (ρ : Renaming)

def SymbolKey.rename (key : SymbolKey) : SymbolKey := ⟨ρ.key key.unique⟩

def Name.rename (name : Name) : Name := ⟨name.key.rename ρ, ρ.text name.occ⟩

def Identifier.rename : Identifier → Identifier
  | .entity name => .entity (name.rename ρ)
  | .module name => .module (ρ.text name)

def IdentifierEntry.rename (entry : IdentifierEntry τ) : IdentifierEntry τ :=
  { entry with identifier := entry.identifier.rename ρ }

mutual

def Node.rename : Node τ → Node τ
  | .mk annotations types identifiers children =>
    .mk annotations types (identifiers.map (IdentifierEntry.rename ρ)) (renameAll children)

def Node.renameAll : List (Node τ) → List (Node τ)
  | [] => []
  | node :: nodes => rename node :: renameAll nodes

end

def TypeTerm.rename : TypeTerm → TypeTerm
  | .var name => .var (name.rename ρ)
  | .struct refs => .struct refs

def TypeTable.rename (table : TypeTable) : TypeTable := table.map (TypeTerm.rename ρ)

/-- The name and the path of the dump itself stay. -/
def Interface.rename (dump : Interface) : Interface :=
  { dump with roots := dump.roots.map (Node.rename ρ), types := dump.types.rename ρ }

/-! Modules with other keys and names -/

def Uses.rename (uses : Uses) : Uses := uses.map (SymbolKey.rename ρ)

def RecordField.rename (field : RecordField) : RecordField :=
  ⟨field.key.rename ρ, ρ.text field.name, Uses.rename ρ field.uses⟩

def ConstructorBody.rename : ConstructorBody → ConstructorBody
  | .naked uses => .naked (Uses.rename ρ uses)
  | .record fields => .record (fields.map (RecordField.rename ρ))

def Constructor.rename (con : Constructor) : Constructor :=
  ⟨con.key.rename ρ, ρ.text con.name, con.body.rename ρ⟩

def DataType.rename (type : DataType) : DataType :=
  ⟨type.key.rename ρ, ρ.text type.name, type.constructors.map (Constructor.rename ρ)⟩

def Binding.rename (binding : Binding) : Binding :=
  ⟨binding.key.rename ρ, ρ.text binding.name, Uses.rename ρ binding.uses⟩

def Method.rename (method : Method) : Method := ⟨method.key.rename ρ, ρ.text method.name⟩

def TypeClass.rename (described : TypeClass) : TypeClass :=
  ⟨described.key.rename ρ, ρ.text described.name, described.methods.map (Method.rename ρ)⟩

def Decl.rename : Decl → Decl
  | .data type => .data (type.rename ρ)
  | .value binding => .value (binding.rename ρ)
  | .typeClass described => .typeClass (described.rename ρ)

/-- Everything that a module declares and imports is renamed, in its place. -/
def Module.rename (module : Module) : Module :=
  { module with
    imports := module.imports.map ρ.text
    decls := module.decls.map (Decl.rename ρ) }

/-! Tables -/

namespace TypeTable

variable (table : TypeTable)

theorem size_rename : (table.rename ρ).size = table.size := Array.size_map

theorem atIndex_rename (index : Int) :
    atIndex (table.rename ρ) index = TypeTerm.rename ρ <$> atIndex table index :=
  atIndex_map _ _ _

/-- An expansion goes the same way whatever the names on it are. -/
theorem expand_rename (visited : List Nat) (pending : List Int) :
    (table.rename ρ).expand visited pending =
      Uses.rename ρ <$> table.expand visited pending := by
  have get {slot : Nat} {term : TypeTerm} (h : table[slot]? = some term) :
      (table.rename ρ)[slot]? = some (term.rename ρ) := by
    rw [rename, Array.getElem?_map, h, Option.map_some]
  fun_induction expand table visited pending with
  | case1 =>
      rw [expand]
      rfl
  | case2 visited index pending bad hat =>
      have hat' := table.atIndex_rename ρ index
      rw [hat] at hat'
      exact expand_bad hat'
  | case3 visited index pending name hat ih =>
      obtain ⟨slot, rfl, hslot⟩ := atIndex_eq_ok_iff.mp hat
      rw [expand_var (get hslot), ih]
      cases table.expand visited pending <;> rfl
  | case4 visited index pending refs hat hv ih =>
      obtain ⟨slot, rfl, hslot⟩ := atIndex_eq_ok_iff.mp hat
      rw [expand_entered (get hslot) hv, ih]
  | case5 visited index pending refs hat hv _ ih =>
      obtain ⟨slot, rfl, hslot⟩ := atIndex_eq_ok_iff.mp hat
      rw [expand_fresh (get hslot) hv, ← ih, Int.toNat_natCast]

theorem refusal?_resolve_rename :
    refusal? (table.rename ρ).resolve = refusal? table.resolve := by
  simp only [refusal?_resolve, size_rename, resolveSlot, expand_rename, refusal?_map]

theorem symbolsAt_rename (index : Int) :
    (table.rename ρ).symbolsAt index = Uses.rename ρ (table.symbolsAt index) := by
  rw [symbolsAt, symbolsAt, expand_rename]
  cases table.expand [] [index] <;> rfl

end TypeTable

/-! Trees -/

namespace Node

variable (node : Node τ)

theorem renameAll_eq_map (nodes : List (Node τ)) : renameAll ρ nodes = nodes.map (rename ρ) := by
  induction nodes with
  | nil => rfl
  | cons node nodes ih => simp [renameAll, ih]

theorem rename_eq :
    node.rename ρ = mk node.annotations node.types
      (node.identifiers.map (IdentifierEntry.rename ρ)) (node.children.map (rename ρ)) := by
  cases node
  rw [rename, renameAll_eq_map]
  rfl

theorem payloads_rename : (node.rename ρ).payloads = node.payloads := by
  induction node using childInduction with
  | step node ih =>
      have hchildren : (node.children.map (rename ρ)).flatMap payloads =
          node.children.flatMap payloads := by
        rw [List.flatMap_map]
        exact List.flatMap_congr ih
      have hidentifiers : (node.identifiers.map (IdentifierEntry.rename ρ)).filterMap
          IdentifierEntry.type = node.identifiers.filterMap IdentifierEntry.type := by
        rw [List.filterMap_map]
        rfl
      rw [payloads_eq, payloads_eq node, rename_eq, ← hchildren, ← hidentifiers]
      rfl

/-- The tree with its types resolved by `symbols`, in other names. -/
def resolveRenamed (symbols : τ → List SymbolKey) : ResolvedNode :=
  (node.rename ρ).mapTypes fun t => Uses.rename ρ (symbols t)

section ResolveRenamed

variable (symbols : τ → List SymbolKey)

theorem annotations_resolveRenamed :
    (node.resolveRenamed ρ symbols).annotations = (node.mapTypes symbols).annotations := by
  rw [resolveRenamed, rename_eq, annotations_mapTypes, annotations_mapTypes]
  rfl

theorem types_resolveRenamed :
    (node.resolveRenamed ρ symbols).types = (node.mapTypes symbols).types.map (Uses.rename ρ) := by
  rw [resolveRenamed, rename_eq, types_mapTypes, types_mapTypes, List.map_map]
  rfl

theorem identifiers_resolveRenamed :
    (node.resolveRenamed ρ symbols).identifiers = (node.mapTypes symbols).identifiers.map
      fun entry => (entry.rename ρ).mapType (Uses.rename ρ) := by
  rw [resolveRenamed, rename_eq, identifiers_mapTypes, identifiers_mapTypes, identifiers,
    List.map_map, List.map_map]
  refine List.map_congr_left fun entry _ => ?_
  rcases entry with ⟨identifier, type, occurrences⟩
  simp [IdentifierEntry.rename, IdentifierEntry.mapType, Function.comp_def]

theorem children_resolveRenamed :
    (node.resolveRenamed ρ symbols).children =
      node.children.map fun child => child.resolveRenamed ρ symbols := by
  rw [resolveRenamed, rename_eq, children_mapTypes, children, List.map_map]
  rfl

end ResolveRenamed

end Node

open Grammar

theorem entryUses_rename (entry : ResolvedEntry) :
    entryUses ((entry.rename ρ).mapType (Uses.rename ρ)) = Uses.rename ρ (entryUses entry) := by
  rcases entry with ⟨name | name, type, occurrences⟩
  · simp only [IdentifierEntry.rename, Identifier.rename, IdentifierEntry.mapType, entryUses]
    split
    · cases type <;> rfl
    · rfl
  · rfl

theorem uses_resolveRenamed (node : Node τ) (symbols : τ → List SymbolKey) :
    uses (node.resolveRenamed ρ symbols) = Uses.rename ρ (uses (node.mapTypes symbols)) := by
  induction node using Node.childInduction with
  | step node ih =>
      have hchildren : (node.resolveRenamed ρ symbols).children.flatMap uses =
          Uses.rename ρ ((node.mapTypes symbols).children.flatMap uses) := by
        rw [Node.children_resolveRenamed, Node.children_mapTypes, List.flatMap_map,
          List.flatMap_map, Uses.rename, List.map_flatMap]
        exact List.flatMap_congr ih
      have hidentifiers : (node.resolveRenamed ρ symbols).identifiers.flatMap entryUses =
          Uses.rename ρ ((node.mapTypes symbols).identifiers.flatMap entryUses) := by
        rw [Node.identifiers_resolveRenamed, List.flatMap_map, Uses.rename, List.map_flatMap]
        exact List.flatMap_congr fun entry _ => entryUses_rename ρ entry
      have htypes : (node.resolveRenamed ρ symbols).types.flatten =
          Uses.rename ρ (node.mapTypes symbols).types.flatten := by
        rw [Node.types_resolveRenamed, Uses.rename, List.map_flatten]
        rfl
      rw [uses_eq, uses_eq, htypes, hidentifiers, hchildren, Uses.rename, Uses.rename, Uses.rename,
        ← List.map_append, ← List.map_append]
      rfl

/-! What the grammar makes of renamed trees -/

namespace Likeness

/-- The second has the same entities in the same places, under other names. -/
def upToNames : Likeness where
  arrangement := .fixed
  name := fun name name' => name.rename ρ = name'
  imported := fun name name' => ρ.text name = name'
  uses := fun uses uses' => Uses.rename ρ uses = uses'

theorem upToNames_entries (entry : ResolvedEntry) :
    (upToNames ρ).Entries entry ((entry.rename ρ).mapType (Uses.rename ρ)) := by
  refine ⟨?_, SameSet.refl _⟩
  rcases entry with ⟨name | name, type, occurrences⟩ <;> rfl

theorem upToNames_heads (tagged : Nat) (node : Node τ) (symbols : τ → List SymbolKey) :
    (upToNames ρ).Heads tagged (node.mapTypes symbols) (node.resolveRenamed ρ symbols) where
  annotations _ := by
    rw [Node.annotations_resolveRenamed]
    exact SameSet.refl _
  identifiers := by
    rw [Node.identifiers_resolveRenamed]
    exact List.forall₂_map_right_iff.mpr
      (List.forall₂_same.mpr fun entry _ => upToNames_entries ρ entry)
  uses := (uses_resolveRenamed ρ node symbols).symm

theorem upToNames_nodes (tagged depth : Nat) (node : Node τ) (symbols : τ → List SymbolKey) :
    (upToNames ρ).Nodes tagged depth (node.mapTypes symbols) (node.resolveRenamed ρ symbols) := by
  induction depth generalizing tagged node with
  | zero => exact upToNames_heads ρ tagged node symbols
  | succ depth ih =>
      refine ⟨upToNames_heads ρ tagged node symbols, ?_⟩
      rw [Node.children_mapTypes, Node.children_resolveRenamed]
      exact List.forall₂_map_left_iff.mpr (List.forall₂_map_right_iff.mpr
        (List.forall₂_same.mpr fun child _ => ih (tagged - 1) child))

variable {ρ}

theorem Fields.rename_eq {field field' : RecordField} (h : (upToNames ρ).Fields field field') :
    field.rename ρ = field' := by
  obtain ⟨hkey, hname⟩ := Name.mk.inj h.name
  exact RecordField.mk.injEq .. ▸ ⟨hkey, hname, h.uses⟩

theorem Bodies.rename_eq {body body' : ConstructorBody} (h : (upToNames ρ).Bodies body body') :
    body.rename ρ = body' := by
  rcases body with uses | fields <;> rcases body' with uses' | fields'
  · exact congrArg ConstructorBody.naked h
  · cases h
  · cases h
  · exact congrArg ConstructorBody.record
      (map_eq_of_forall₂ h fun _ _ hfield => Fields.rename_eq hfield)

theorem Constructors.rename_eq {con con' : Constructor} (h : (upToNames ρ).Constructors con con') :
    con.rename ρ = con' := by
  obtain ⟨hkey, hname⟩ := Name.mk.inj h.name
  exact Constructor.mk.injEq .. ▸ ⟨hkey, hname, h.body.rename_eq⟩

theorem DataTypes.rename_eq {type type' : DataType} (h : (upToNames ρ).DataTypes type type') :
    type.rename ρ = type' := by
  obtain ⟨hkey, hname⟩ := Name.mk.inj h.name
  have hconstructors := map_eq_of_forall₂ h.constructors fun _ _ hcon => hcon.rename_eq
  exact DataType.mk.injEq .. ▸ ⟨hkey, hname, hconstructors⟩

theorem Decls.rename_eq {decl decl' : Decl} (h : (upToNames ρ).Decls decl decl') :
    decl.rename ρ = decl' := by
  cases decl with
  | data type =>
      cases decl' with
      | data type' => exact congrArg Decl.data (DataTypes.rename_eq h)
      | value binding => cases h
      | typeClass typeClass => cases h
  | value binding => cases h
  | typeClass typeClass => cases h

theorem Modules.rename_eq {module module' : Module} (h : (upToNames ρ).Modules module module') :
    module.rename ρ = module' := by
  have himports := map_eq_of_forall₂ h.imports fun _ _ hname => hname
  have hdecls := map_eq_of_forall₂ h.decls fun _ _ hdecl => Decls.rename_eq hdecl
  exact Module.mk.injEq .. ▸ ⟨h.name, h.path, himports, hdecls⟩

end Likeness

namespace Interface

variable (dump : Interface)

theorem typeIndices_rename : (dump.rename ρ).typeIndices = dump.typeIndices := by
  rw [typeIndices, typeIndices, rename, List.flatMap_map]
  exact List.flatMap_congr fun root _ => root.payloads_rename ρ

theorem badIndices_rename : (dump.rename ρ).badIndices = dump.badIndices := by
  rw [badIndices, badIndices, typeIndices_rename]
  simp only [rename, TypeTable.size_rename]

theorem refusal?_parse_rename : refusal? (dump.rename ρ).parse = refusal? dump.parse := by
  rw [refusal?_parse, refusal?_parse, refusal?_resolvedRoots, refusal?_resolvedRoots,
    badIndices_rename]
  simp only [rename, TypeTable.refusal?_resolve_rename, TypeTable.size_rename]

/-- A renamed dump is read as the renamed module, and refused or passed over as the dump is. -/
theorem parse_rename : (dump.rename ρ).parse = Option.map (Module.rename ρ) <$> dump.parse := by
  have hrefusal := dump.refusal?_parse_rename ρ
  cases hparse : dump.parse with
  | error bad =>
      rw [hparse] at hrefusal
      exact refusal?_eq_some_iff.mp hrefusal
  | ok result =>
      rw [hparse] at hrefusal
      obtain ⟨renamed, hrenamed⟩ := refusal?_eq_none_iff.mp hrefusal
      have closed := closed_of_parse_eq_ok hparse
      have closed' := closed_of_parse_eq_ok hrenamed
      have hroots : List.Forall₂
          (fun root root' => (Likeness.upToNames ρ).Nodes 3 5 (root.mapTypes dump.types.symbolsAt)
            (root'.mapTypes (dump.rename ρ).types.symbolsAt)) dump.roots (dump.rename ρ).roots := by
        refine List.forall₂_map_right_iff.mpr (List.forall₂_same.mpr fun root _ => ?_)
        have hsymbols : (dump.rename ρ).types.symbolsAt =
            fun index => Uses.rename ρ (dump.types.symbolsAt index) :=
          funext fun index => dump.types.symbolsAt_rename ρ index
        rw [hsymbols]
        exact Likeness.upToNames_nodes ρ 3 5 root dump.types.symbolsAt
      obtain ⟨result', renamed', hresult', hrenamed', hlike⟩ :=
        parse_alike (Likeness.upToNames ρ) closed closed' rfl rfl hroots
      rw [hparse] at hresult'
      cases hresult'
      rw [hrenamed']
      cases hlike with
      | none => rfl
      | some hmodule =>
          rw [← hmodule.rename_eq]
          rfl

end Interface

end DeclGraph
