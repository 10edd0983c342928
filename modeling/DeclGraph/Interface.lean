import DeclGraph.Grammar.ModuleBody
import DeclGraph.TypeTable.Resolve

/-!
Interface dumps: one module's annotated trees and its type table, and the module read from them.
-/

namespace DeclGraph

/-- What a compiler dumps for one module. Types in the trees are indices into the table. -/
structure Interface where
  moduleName : String
  path : String
  roots : List (Node Int)
  types : TypeTable
deriving Repr

namespace Interface

/-- The trees with every type index replaced by its symbols. A bad index inside the table is
reported before one in the trees. -/
def resolvedRoots (dump : Interface) : Except BadIndex (List ResolvedNode) := do
  let table ← dump.types.resolve
  dump.roots.mapM (Node.mapTypesM (atIndex table))

/-- The module, if exactly one root is a module root. -/
def parse (dump : Interface) : Except BadIndex (Option Module) := do
  let roots ← dump.resolvedRoots
  pure (Query.one (fun (roots : List ResolvedNode) => roots)
    (Grammar.moduleBody dump.moduleName dump.path) roots)

end Interface

end DeclGraph
