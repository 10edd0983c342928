import DeclGraph.Grammar.DataDecl

/-!
The module root: imports and declarations among its direct children.
-/

namespace DeclGraph.Grammar

/-- Top-level bindings are not recognised yet. -/
def binding : Query Id ResolvedNode Binding := Query.fail

/-- Type classes are not recognised yet. -/
def typeClass : Query Id ResolvedNode TypeClass := Query.fail

def topLevelDecl : Query Id ResolvedNode Decl :=
  Query.first [
    fun node => Option.map .data (dataType node),
    fun node => Option.map .value (binding node),
    fun node => Option.map .typeClass (typeClass node)]

def importedName : Query Id ResolvedNode String := Query.one Node.identifiers importedModule

def importChild : Query Id ResolvedNode String := fun node =>
  (do
    untagged node
    importedName node : Option String)

def uniqueImportChild : Query Id ResolvedNode String := Query.one Node.children importChild

/-- The module that an import names, in its single untagged child. -/
def importDecl : Query Id ResolvedNode String := fun node =>
  (do
    annotated .importDecl node
    uniqueImportChild node : Option String)

/-- What a direct child of a module root contributes. -/
inductive Item where
  | imported (name : String)
  | declared (decl : Decl)
deriving DecidableEq, Repr

def Item.import? : Item → Option String
  | .imported name => some name
  | .declared _ => none

def Item.decl? : Item → Option Decl
  | .imported _ => none
  | .declared decl => some decl

/-- An import is tried before a declaration. -/
def item : Query Id ResolvedNode Item :=
  Query.first [
    fun node => Option.map .imported (importDecl node),
    fun node => Option.map .declared (topLevelDecl node)]

def items : Query Id ResolvedNode (List Item) := Query.many Node.children item

/-- Matches every node with the module role. Children that are no items are dropped. -/
def moduleBody (name path : String) : Query Id ResolvedNode Module := fun node =>
  (do
    annotated .moduleRoot node
    let items ← items node
    some ⟨name, path, items.filterMap Item.import?, items.filterMap Item.decl?⟩ : Option Module)

end DeclGraph.Grammar
