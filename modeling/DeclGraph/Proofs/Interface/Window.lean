import DeclGraph.Proofs.Interface.Resolution

/-!
The part of a dump that decides which entities are read from it: a few levels of its trees. Types
and whatever lies deeper have a bearing on use lists only.
-/

namespace DeclGraph

variable {τ σ : Type}

structure IdentifierEntry.Agree (entry : IdentifierEntry τ) (entry' : IdentifierEntry σ) :
    Prop where
  identifier : entry.identifier = entry'.identifier
  occurrences : SameSet entry.occurrences entry'.occurrences

instance (entry : IdentifierEntry τ) (entry' : IdentifierEntry σ) :
    Decidable (entry.Agree entry') :=
  decidable_of_iff
    (entry.identifier = entry'.identifier ∧ SameSet entry.occurrences entry'.occurrences)
    ⟨fun h => ⟨h.1, h.2⟩, fun h => ⟨h.identifier, h.occurrences⟩⟩

namespace Node

structure HeadAgrees (tagged : Nat) (node : Node τ) (node' : Node σ) : Prop where
  annotations : 0 < tagged → SameSet node.annotations node'.annotations
  identifiers : List.Forall₂ IdentifierEntry.Agree node.identifiers node'.identifiers

instance (tagged : Nat) (node : Node τ) (node' : Node σ) : Decidable (node.HeadAgrees tagged node') :=
  decidable_of_iff
    ((0 < tagged → SameSet node.annotations node'.annotations) ∧
      List.Forall₂ IdentifierEntry.Agree node.identifiers node'.identifiers)
    ⟨fun h => ⟨h.1, h.2⟩, fun h => ⟨h.annotations, h.identifiers⟩⟩

/-- The trees have the same nodes down to `depth`, with the same identifiers in the same order, and
with the same annotations on the first `tagged` levels. Nothing is said of types, or of what lies
deeper. -/
def Agree : (tagged depth : Nat) → Node τ → Node σ → Prop
  | tagged, 0, node, node' => node.HeadAgrees tagged node'
  | tagged, depth + 1, node, node' =>
    node.HeadAgrees tagged node' ∧
      List.Forall₂ (Agree (tagged - 1) depth) node.children node'.children

instance decidableAgree : ∀ (tagged depth : Nat) (node : Node τ) (node' : Node σ),
    Decidable (Agree tagged depth node node')
  | tagged, 0, node, node' => inferInstanceAs (Decidable (node.HeadAgrees tagged node'))
  | tagged, depth + 1, node, node' =>
    have (child : Node τ) (child' : Node σ) := decidableAgree (tagged - 1) depth child child'
    inferInstanceAs (Decidable (node.HeadAgrees tagged node' ∧
      List.Forall₂ (Agree (tagged - 1) depth) node.children node'.children))

end Node

/-! Modules without their use lists -/

def RecordField.eraseUses (field : RecordField) : RecordField := { field with uses := [] }

def ConstructorBody.eraseUses : ConstructorBody → ConstructorBody
  | .naked _ => .naked []
  | .record fields => .record (fields.map RecordField.eraseUses)

def Constructor.eraseUses (con : Constructor) : Constructor :=
  { con with body := con.body.eraseUses }

def DataType.eraseUses (type : DataType) : DataType :=
  { type with constructors := type.constructors.map Constructor.eraseUses }

def Decl.eraseUses : Decl → Decl
  | .data type => .data type.eraseUses
  | .value binding => .value { binding with uses := [] }
  | .typeClass described => .typeClass described

def Module.eraseUses (module : Module) : Module :=
  { module with decls := module.decls.map Decl.eraseUses }

namespace Likeness

/-- Everything counts but the uses. -/
def shape : Likeness where
  arrangement := .fixed
  name := Eq
  imported := Eq
  uses := fun _ _ => True

theorem Fields.eraseUses {field field' : RecordField} (h : shape.Fields field field') :
    field.eraseUses = field'.eraseUses := by
  obtain ⟨hkey, hname⟩ := Name.mk.inj h.name
  simp [RecordField.eraseUses, hkey, hname]

theorem Bodies.eraseUses {body body' : ConstructorBody} (h : shape.Bodies body body') :
    body.eraseUses = body'.eraseUses := by
  rcases body with uses | fields <;> rcases body' with uses' | fields'
  · rfl
  · cases h
  · cases h
  · exact congrArg ConstructorBody.record
      (map_eq_map_of_forall₂ h fun _ _ hfield => hfield.eraseUses)

theorem Constructors.eraseUses {con con' : Constructor} (h : shape.Constructors con con') :
    con.eraseUses = con'.eraseUses := by
  obtain ⟨hkey, hname⟩ := Name.mk.inj h.name
  simp [Constructor.eraseUses, hkey, hname, h.body.eraseUses]

theorem DataTypes.eraseUses {type type' : DataType} (h : shape.DataTypes type type') :
    type.eraseUses = type'.eraseUses := by
  obtain ⟨hkey, hname⟩ := Name.mk.inj h.name
  have hconstructors := map_eq_map_of_forall₂ h.constructors fun _ _ hcon => hcon.eraseUses
  simp [DataType.eraseUses, hkey, hname, hconstructors]

theorem Decls.eraseUses {decl decl' : Decl} (h : shape.Decls decl decl') :
    decl.eraseUses = decl'.eraseUses := by
  cases decl with
  | data type =>
      cases decl' with
      | data type' => exact congrArg Decl.data (DataTypes.eraseUses h)
      | value binding => cases h
      | typeClass typeClass => cases h
  | value binding => cases h
  | typeClass typeClass => cases h

theorem Modules.eraseUses {module module' : Module} (h : shape.Modules module module') :
    module.eraseUses = module'.eraseUses := by
  have himports : module.imports = module'.imports := List.forall₂_eq_eq_eq ▸ h.imports
  have hdecls := map_eq_map_of_forall₂ h.decls fun _ _ hdecl => Decls.eraseUses hdecl
  simp [Module.eraseUses, h.name, h.path, himports, hdecls]

end Likeness

open Likeness

theorem IdentifierEntry.Agree.entries {ρ π : Type} {entry : IdentifierEntry τ}
    {entry' : IdentifierEntry σ} (h : entry.Agree entry') (f : τ → ρ) (g : σ → π) :
    shape.Entries (entry.mapType f) (entry'.mapType g) := by
  refine ⟨?_, h.occurrences⟩
  show shape.Identifiers entry.identifier entry'.identifier
  rw [← h.identifier]
  cases entry.identifier <;> rfl

theorem Node.HeadAgrees.heads {tagged : Nat} {node : Node τ} {node' : Node σ}
    (h : node.HeadAgrees tagged node') (f : τ → List SymbolKey) (g : σ → List SymbolKey) :
    shape.Heads tagged (node.mapTypes f) (node'.mapTypes g) := by
  refine ⟨?_, ?_, trivial⟩
  · rw [annotations_mapTypes, annotations_mapTypes]
    exact h.annotations
  · rw [identifiers_mapTypes, identifiers_mapTypes]
    exact (Arrangement.Match.of_forall₂ h.identifiers).map fun _ _ hentry => hentry.entries f g

theorem Node.Agree.nodes {tagged depth : Nat} {node : Node τ} {node' : Node σ}
    (h : Agree tagged depth node node') (f : τ → List SymbolKey) (g : σ → List SymbolKey) :
    shape.Nodes tagged depth (node.mapTypes f) (node'.mapTypes g) := by
  induction depth generalizing tagged node node' with
  | zero => exact HeadAgrees.heads h f g
  | succ depth ih =>
      refine ⟨h.1.heads f g, ?_⟩
      rw [children_mapTypes, children_mapTypes]
      exact (Arrangement.Match.of_forall₂ h.2).map fun _ _ hchild => ih hchild

namespace Interface

/-- Dumps that agree down to depth five, and in the annotations of their first three levels, are
read as the same module but for its use lists. -/
theorem parse_eraseUses_of_agree (dump dump' : Interface)
    (hname : dump.moduleName = dump'.moduleName) (hpath : dump.path = dump'.path)
    (closed : dump.Closed) (closed' : dump'.Closed)
    (hroots : List.Forall₂ (Node.Agree 3 5) dump.roots dump'.roots) :
    ∃ result result', dump.parse = .ok result ∧ dump'.parse = .ok result' ∧
      result.map Module.eraseUses = result'.map Module.eraseUses := by
  have hnodes : shape.arrangement.Match
      (fun root root' => shape.Nodes 3 5 (root.mapTypes dump.types.symbolsAt)
        (root'.mapTypes dump'.types.symbolsAt)) dump.roots dump'.roots :=
    hroots.imp fun _ _ hroot => hroot.nodes _ _
  obtain ⟨result, result', hresult, hresult', halike⟩ :=
    parse_alike shape closed closed' hname hpath hnodes
  refine ⟨result, result', hresult, hresult', ?_⟩
  cases halike with
  | none => rfl
  | some hmodules => exact congrArg some hmodules.eraseUses

/-- A node with one entity in its identifier table. -/
def entityNode (occurrence : Occurrence) (key : Int) (type : Option Int)
    (children : List (Node Int)) : Node Int :=
  .mk [] [] [⟨.entity ⟨⟨key⟩, "x"⟩, type, [occurrence]⟩] children

def importNode (name : String) : Node Int :=
  .mk [.importDecl] [] [] [.mk [] [] [⟨.module name, none, [.moduleImport]⟩] []]

/-- A record whose field has a use below the name of the field. -/
def recordNode : Node Int :=
  .mk [] [] [] [entityNode .conDecl 2 none [],
    .mk [] [] [] [.mk [] [] [] [
      entityNode .recordFieldDecl 3 none [entityNode .use 20 (some 0) []]]]]

def windowDump : Interface where
  moduleName := "M"
  path := "M.hs"
  roots := [.mk [.moduleRoot] [] [] [
    importNode "A",
    .mk [] [0] [] [entityNode .dataDecl 1 none [], recordNode]]]
  types := #[.var ⟨⟨30⟩, "t"⟩]

/-- The same window over other types, with annotations and without the use below it. -/
def otherWindowDump : Interface where
  moduleName := "M"
  path := "M.hs"
  roots := [.mk [.moduleRoot] [1] [] [
    importNode "A",
    .mk [] [] [] [entityNode .dataDecl 1 none [],
      .mk [] [] [] [entityNode .conDecl 2 none [],
        .mk [.moduleRoot] [] [] [.mk [.importDecl] [1] [] [
          entityNode .recordFieldDecl 3 (some 0) []]]]]]]
  types := #[.struct [0, 1], .var ⟨⟨31⟩, "u"⟩]

theorem parse_eraseUses_of_agree_windowDump :
    windowDump.moduleName = otherWindowDump.moduleName ∧
      windowDump.path = otherWindowDump.path ∧ windowDump.Closed ∧ otherWindowDump.Closed ∧
      List.Forall₂ (Node.Agree 3 5) windowDump.roots otherWindowDump.roots ∧
      ∃ result result', windowDump.parse = .ok result ∧ otherWindowDump.parse = .ok result' ∧
        result.map Module.eraseUses = result'.map Module.eraseUses :=
  ⟨rfl, rfl, by decide, by decide, by decide,
    parse_eraseUses_of_agree windowDump otherWindowDump rfl rfl (by decide) (by decide) (by decide)⟩

end Interface

end DeclGraph
