import DeclGraph.Symbol

/-!
The declaration graph of one module: what it declares, what each declaration is built from, and
the symbols that each part uses.
-/

namespace DeclGraph

/-- Symbols that a part of a declaration depends on, in the order they are met. -/
abbrev Uses := List SymbolKey

structure RecordField where
  key : SymbolKey
  name : String
  uses : Uses
deriving DecidableEq, Repr

/-- A constructor keeps its uses per field when it is written with record fields, and in one list
otherwise. -/
inductive ConstructorBody where
  | naked (uses : Uses)
  | record (fields : List RecordField)
deriving DecidableEq, Repr

structure Constructor where
  key : SymbolKey
  name : String
  body : ConstructorBody
deriving DecidableEq, Repr

structure DataType where
  key : SymbolKey
  name : String
  constructors : List Constructor
deriving DecidableEq, Repr

/-- A top-level binding. The grammar does not recognise these yet. -/
structure Binding where
  key : SymbolKey
  name : String
  uses : Uses
deriving DecidableEq, Repr

structure Method where
  key : SymbolKey
  name : String
deriving DecidableEq, Repr

/-- A type class. The grammar does not recognise these yet. -/
structure TypeClass where
  key : SymbolKey
  name : String
  methods : List Method
deriving DecidableEq, Repr

inductive Decl where
  | data (type : DataType)
  | value (binding : Binding)
  | typeClass (typeClass : TypeClass)
deriving DecidableEq, Repr

structure Module where
  name : String
  path : String
  imports : List String
  decls : List Decl
deriving DecidableEq, Repr

/-- The data type that a declaration introduces, if it introduces one. -/
def Decl.dataType? : Decl → Option DataType
  | .data type => some type
  | .value _ | .typeClass _ => none

namespace Module

def dataTypes (module : Module) : List DataType := module.decls.filterMap Decl.dataType?

/-- The number of constructors of all data types together. -/
def constructorCount (module : Module) : Nat :=
  (module.dataTypes.flatMap DataType.constructors).length

end Module

end DeclGraph
