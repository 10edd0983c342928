import DeclGraph.Grammar.Names
import DeclGraph.Module

/-!
Symbols that a subtree depends on.
-/

namespace DeclGraph.Grammar

/-- The symbols that one identifier entry contributes: an entity that is used, followed by the
symbols of its type. -/
def entryUses : ResolvedEntry → Uses
  | ⟨.entity name, type, occurrences⟩ =>
    if .use ∈ occurrences then name.key :: type.getD [] else []
  | ⟨.module _, _, _⟩ => []

mutual

/-- Every symbol that a subtree depends on, in pre-order: at each node the symbols of its types,
then those of its identifiers, then those of its children. -/
def uses : ResolvedNode → Uses
  | .mk _ types identifiers children =>
    types.flatten ++ identifiers.flatMap entryUses ++ usesAll children

def usesAll : List ResolvedNode → Uses
  | [] => []
  | node :: nodes => uses node ++ usesAll nodes

end

theorem usesAll_eq_flatMap (nodes : List ResolvedNode) : usesAll nodes = nodes.flatMap uses := by
  induction nodes with
  | nil => rfl
  | cons node nodes ih => simp [usesAll, ih]

end DeclGraph.Grammar
