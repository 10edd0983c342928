import DeclGraph.Text.Markup

/-!
Outlines: trees of labels, drawn with guides down the left.
-/

namespace DeclGraph

/-- A label in markup, and the outlines below it. -/
inductive Outline where
  | mk (label : String) (branches : List Outline)
deriving Repr, Inhabited

namespace Outline

def leaf (label : String) : Outline := mk label []

/-- Puts one guide before the first line and another before each further line. -/
def hang (first rest : String) : List String → List String
  | [] => []
  | line :: lines => (first ++ line) :: lines.map (rest ++ ·)

mutual

/-- The lines of an outline: those of its label, then those of its branches behind their guides. -/
def lines : Outline → List String
  | mk label branches => Text.labelLines label ++ branchLines branches

/-- The last branch has a guide of its own, and nothing is drawn below that. -/
def branchLines : List Outline → List String
  | [] => []
  | branch :: branches =>
    (if branches.isEmpty then hang "└── " "    " (lines branch)
      else hang "├── " "│   " (lines branch)) ++ branchLines branches

end

end Outline

end DeclGraph
