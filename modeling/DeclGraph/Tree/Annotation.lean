/-!
Syntactic roles of tree nodes.
-/

namespace DeclGraph

/-- The roles that the grammar looks at. A dump's vocabulary is open, so every other role is
`unrecognized`. -/
inductive Annotation where
  | moduleRoot
  | importDecl
  | unrecognized
deriving DecidableEq, Repr, Inhabited

namespace Annotation

def label : Annotation → String
  | moduleRoot => "Module/Module"
  | importDecl => "ImportDecl/ImportDecl"
  | unrecognized => "unrecognized"

def all : List Annotation := [moduleRoot, importDecl, unrecognized]

def ofLabel? (label : String) : Option Annotation := all.find? (·.label == label)

/-- A dump gives a role as a category and a subcategory, which are looked up as one label. -/
def classify (category subcategory : String) : Annotation :=
  (ofLabel? (category ++ "/" ++ subcategory)).getD unrecognized

theorem ofLabel?_label (a : Annotation) : ofLabel? a.label = some a := by
  cases a <;> decide

end Annotation

end DeclGraph
