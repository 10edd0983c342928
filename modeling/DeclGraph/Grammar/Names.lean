import DeclGraph.Query
import DeclGraph.Tree.Node

/-!
Names at resolved tree nodes: which roles a node has, and which names it declares.
-/

namespace DeclGraph

/-- A tree whose types have been replaced by the symbols that they expand to. -/
abbrev ResolvedNode := Node (List SymbolKey)

/-- An identifier entry of a resolved tree. -/
abbrev ResolvedEntry := IdentifierEntry (List SymbolKey)

namespace Grammar

def annotated (role : Annotation) : Query Id ResolvedNode Unit :=
  Query.check fun node => decide (role ∈ node.annotations)

def untagged : Query Id ResolvedNode Unit := Query.check fun node => node.annotations.isEmpty

/-- The entity that an entry names, where its occurrences pass the filter. -/
def entityEntry (accepts : List Occurrence → Bool) : Query Id ResolvedEntry Name
  | ⟨.entity name, _, occurrences⟩ => if accepts occurrences then some name else none
  | ⟨.module _, _, _⟩ => none

/-- The single entity at a node whose occurrences pass the filter. -/
def declaredName (accepts : List Occurrence → Bool) : Query Id ResolvedNode Name :=
  Query.one Node.identifiers (entityEntry accepts)

/-- The name of the only child that declares exactly one entity as `occurrence`. -/
def uniqueNameChild (occurrence : Occurrence) : Query Id ResolvedNode Name :=
  Query.one Node.children (declaredName fun occurrences => decide (occurrence ∈ occurrences))

/-- The module that an entry names in an import. -/
def importedModule : Query Id ResolvedEntry String
  | ⟨.module name, _, occurrences⟩ => if .moduleImport ∈ occurrences then some name else none
  | ⟨.entity _, _, _⟩ => none

end Grammar

end DeclGraph
