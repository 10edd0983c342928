import DeclGraph.Tree.Annotation
import DeclGraph.Tree.Identifier

/-!
Annotated trees. A node is generic in its type payload: as dumped it holds indices into a type
table, after resolution the symbols that each type expands to.
-/

namespace DeclGraph

/-- A node of a module's tree. The annotations are read as a set. -/
inductive Node (τ : Type) where
  | mk (annotations : List Annotation) (types : List τ)
      (identifiers : List (IdentifierEntry τ)) (children : List (Node τ))
deriving Repr

namespace Node

variable {τ σ : Type}

def annotations : Node τ → List Annotation
  | mk annotations _ _ _ => annotations

def types : Node τ → List τ
  | mk _ types _ _ => types

def identifiers : Node τ → List (IdentifierEntry τ)
  | mk _ _ identifiers _ => identifiers

def children : Node τ → List (Node τ)
  | mk _ _ _ children => children

mutual

/-- The same tree with every type payload passed through `f`. -/
def mapTypes (f : τ → σ) : Node τ → Node σ
  | mk annotations types identifiers children =>
    mk annotations (types.map f) (identifiers.map (·.mapType f)) (mapTypesAll f children)

def mapTypesAll (f : τ → σ) : List (Node τ) → List (Node σ)
  | [] => []
  | node :: nodes => mapTypes f node :: mapTypesAll f nodes

end

theorem mapTypesAll_eq_map (f : τ → σ) (nodes : List (Node τ)) :
    mapTypesAll f nodes = nodes.map (mapTypes f) := by
  induction nodes with
  | nil => rfl
  | cons node nodes ih => simp [mapTypesAll, ih]

mutual

/-- Like `mapTypes`, for a function with an effect. At each node the node's own types come first,
then those of its identifiers, then its children. -/
def mapTypesM {m : Type → Type} [Monad m] (f : τ → m σ) : Node τ → m (Node σ)
  | mk annotations types identifiers children => do
    let types ← types.mapM f
    let identifiers ← identifiers.mapM (·.mapTypeM f)
    let children ← mapTypesAllM f children
    pure (mk annotations types identifiers children)

def mapTypesAllM {m : Type → Type} [Monad m] (f : τ → m σ) : List (Node τ) → m (List (Node σ))
  | [] => pure []
  | node :: nodes => do
    let node ← mapTypesM f node
    let nodes ← mapTypesAllM f nodes
    pure (node :: nodes)

end

mutual

/-- What a tree keeps of types that may be none. Among its own types a node has none like any other,
whereas the type of an identifier is then absent. -/
def settle : Node (Option τ) → Node (Option τ)
  | mk annotations types identifiers children =>
    mk annotations types (identifiers.map (·.settleType)) (settleAll children)

def settleAll : List (Node (Option τ)) → List (Node (Option τ))
  | [] => []
  | node :: nodes => settle node :: settleAll nodes

end

/-- Like `mapTypes`, for a function that may give no type. -/
def rewriteTypes (f : τ → Option σ) (node : Node τ) : Node (Option σ) := (node.mapTypes f).settle

/-- Like `mapTypesM`, for a function that may give no type. -/
def rewriteTypesM {m : Type → Type} [Monad m] (f : τ → m (Option σ)) (node : Node τ) :
    m (Node (Option σ)) := do
  let mapped ← node.mapTypesM f
  pure mapped.settle

end Node

end DeclGraph
