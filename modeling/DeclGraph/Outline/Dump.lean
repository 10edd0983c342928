import DeclGraph.Module
import DeclGraph.Outline.Tree

/-!
Outlines of modules: imports and declarations with their keys and uses.
-/

namespace DeclGraph

open Text (escapeMarkup)

/-- An entity's name, followed by its key. -/
def entityLabel (name : String) (key : SymbolKey) : String := escapeMarkup name ++ " " ++ key.text

def usesLabel (name : String) (key : SymbolKey) (uses : Uses) : String :=
  entityLabel name key ++ " -> " ++ SymbolKey.listText uses

def declLabel (keyword name : String) (key : SymbolKey) : String :=
  "[bold]" ++ keyword ++ "[/bold] " ++ entityLabel name key

def RecordField.outline (field : RecordField) : Outline :=
  .leaf (usesLabel field.name field.key field.uses)

def Constructor.outline (con : Constructor) : Outline :=
  match con.body with
  | .naked uses => .leaf (usesLabel con.name con.key uses)
  | .record fields =>
    .mk (entityLabel con.name con.key ++ " \x7brecord\x7d") (fields.map RecordField.outline)

def Method.outline (method : Method) : Outline := .leaf (entityLabel method.name method.key)

def Decl.outline : Decl → Outline
  | .data type =>
    .mk (declLabel "data" type.name type.key) (type.constructors.map Constructor.outline)
  | .value binding => .leaf (declLabel "value" binding.name binding.key)
  | .typeClass cls =>
    .mk (declLabel "class" cls.name cls.key) (cls.methods.map Method.outline)

namespace Module

def importsOutline (imports : List String) : List Outline :=
  if imports.isEmpty then [] else [.mk "imports" (imports.map fun name => .leaf (escapeMarkup name))]

/-- The title names the module and its path. Imports come before declarations. -/
def outline (module : Module) : Outline :=
  .mk ("[cyan]" ++ escapeMarkup module.name ++ "[/cyan] (" ++ escapeMarkup module.path ++ ")")
    (importsOutline module.imports ++ module.decls.map Decl.outline)

/-- The lines that show modules, one outline after the other. -/
def dumpLines (modules : List Module) : List String :=
  modules.flatMap fun module => module.outline.lines

end Module

end DeclGraph
