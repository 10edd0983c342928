import DeclGraph.Symbol

/-!
The identifier table of a tree node: which names occur there, and how.
-/

namespace DeclGraph

/-- How an identifier occurs at a node. -/
inductive Occurrence where
  | use
  | moduleImport
  | dataDecl
  | conDecl
  | recordFieldDecl
  | unrecognized
deriving DecidableEq, Repr, Inhabited

namespace Occurrence

def label : Occurrence → String
  | use => "use"
  | moduleImport => "import"
  | dataDecl => "data_decl"
  | conDecl => "con_decl"
  | recordFieldDecl => "record_field_decl"
  | unrecognized => "unrecognized"

def all : List Occurrence :=
  [use, moduleImport, dataDecl, conDecl, recordFieldDecl, unrecognized]

def ofLabel? (label : String) : Option Occurrence := all.find? (·.label == label)

theorem ofLabel?_label (o : Occurrence) : ofLabel? o.label = some o := by
  cases o <;> decide

end Occurrence

/-- An identifier names an entity or a whole module. -/
inductive Identifier where
  | entity (name : Name)
  | module (name : String)
deriving DecidableEq, Repr

/-- One entry of an identifier table. The occurrences are read as a set; the type is absent when
the compiler recorded none. -/
structure IdentifierEntry (τ : Type) where
  identifier : Identifier
  type : Option τ
  occurrences : List Occurrence
deriving DecidableEq, Repr

namespace IdentifierEntry

variable {τ σ : Type}

/-- Rewrites the type, when there is one, to another type. -/
def mapType (f : τ → σ) (entry : IdentifierEntry τ) : IdentifierEntry σ :=
  { entry with type := entry.type.map f }

/-- An entry cannot hold that its type is none: such a type is an absent one. -/
def settleType (entry : IdentifierEntry (Option τ)) : IdentifierEntry (Option τ) :=
  { entry with type := entry.type.filter Option.isSome }

/-- Rewrites the type, when there is one, by a function with an effect. -/
def mapTypeM {m : Type → Type} [Monad m] (f : τ → m σ) (entry : IdentifierEntry τ) :
    m (IdentifierEntry σ) :=
  match entry.type with
  | none => pure { entry with type := none }
  | some t => do
    let s ← f t
    pure { entry with type := some s }

end IdentifierEntry

end DeclGraph
