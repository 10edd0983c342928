import DeclGraph.Proofs.Grammar.UseBlocks
import DeclGraph.Proofs.Interface.Resolution

/-!
Uses, read off the trees as they are dumped. What a node mentions are symbols and types; the types
may be resolved before the tree is walked or after.
-/

namespace DeclGraph

/-- One thing that a node mentions: a symbol by its key, or a type. -/
inductive Mention (τ : Type) where
  | symbol (key : SymbolKey)
  | type (type : τ)
deriving DecidableEq, Repr

namespace Mention

variable {τ : Type}

/-- A type stands for symbols. -/
def keys (symbols : τ → List SymbolKey) : Mention τ → List SymbolKey
  | symbol key => [key]
  | type t => symbols t

theorem flatMap_keys_map_type (symbols : τ → List SymbolKey) (types : List τ) :
    (types.map Mention.type).flatMap (keys symbols) = (types.map symbols).flatten := by
  rw [List.flatMap_map, List.flatMap_def]
  rfl

end Mention

/-- An entity that is used is mentioned, and then its type if it has one. Other entries mention
nothing, whatever type they have. -/
def IdentifierEntry.mentions {τ : Type} : IdentifierEntry τ → List (Mention τ)
  | ⟨.entity name, type, occurrences⟩ =>
    if .use ∈ occurrences then .symbol name.key :: type.toList.map .type else []
  | ⟨.module _, _, _⟩ => []

namespace Node

variable {τ : Type}

def mentions (node : Node τ) : List (Mention τ) :=
  node.types.map .type ++ node.identifiers.flatMap IdentifierEntry.mentions

mutual

/-- A node, followed by all nodes below it, each before its children. -/
def preorder : Node τ → List (Node τ)
  | mk annotations types identifiers children =>
    mk annotations types identifiers children :: preorderAll children

def preorderAll : List (Node τ) → List (Node τ)
  | [] => []
  | node :: nodes => preorder node ++ preorderAll nodes

end

theorem preorderAll_eq_flatMap (nodes : List (Node τ)) :
    preorderAll nodes = nodes.flatMap preorder := by
  induction nodes with
  | nil => rfl
  | cons node nodes ih => simp [preorderAll, ih]

theorem preorder_eq (node : Node τ) :
    node.preorder = node :: node.children.flatMap preorder := by
  cases node
  rw [preorder, preorderAll_eq_flatMap]
  rfl

end Node

namespace Grammar

variable {τ : Type} (symbols : τ → List SymbolKey)

theorem entryUses_mapType (entry : IdentifierEntry τ) :
    entryUses (entry.mapType symbols) = entry.mentions.flatMap (Mention.keys symbols) := by
  rcases entry with ⟨name | name, type, occurrences⟩
  · simp only [IdentifierEntry.mapType, entryUses, IdentifierEntry.mentions]
    split
    · cases type <;> simp [Mention.keys]
    · rfl
  · rfl

theorem flatMap_mentions (node : Node τ) :
    node.mentions.flatMap (Mention.keys symbols) =
      (node.types.map symbols).flatten ++
        (node.identifiers.map (·.mapType symbols)).flatMap entryUses := by
  rw [Node.mentions, List.flatMap_append, Mention.flatMap_keys_map_type, List.flatMap_assoc,
    List.flatMap_map]
  simp only [entryUses_mapType]

/-- The uses of a tree with its types replaced are what the tree mentions node by node, with the
same types replaced afterwards. -/
theorem uses_mapTypes (node : Node τ) :
    uses (node.mapTypes symbols) =
      (node.preorder.flatMap Node.mentions).flatMap (Mention.keys symbols) := by
  induction node using Node.childInduction with
  | step node ih =>
      have hchildren : (node.children.map (Node.mapTypes symbols)).flatMap uses =
          ((node.children.flatMap Node.preorder).flatMap Node.mentions).flatMap
            (Mention.keys symbols) := by
        rw [List.flatMap_map, List.flatMap_assoc, List.flatMap_assoc]
        apply List.flatMap_congr
        intro child hchild
        rw [ih child hchild, List.flatMap_assoc]
      rw [uses_eq, Node.types_mapTypes, Node.identifiers_mapTypes, Node.children_mapTypes,
        hchildren, Node.preorder_eq, List.flatMap_cons, List.flatMap_append, flatMap_mentions]

end Grammar

namespace TypeTable

open Grammar

/-- The symbols that a resolved table holds for an index. -/
def resolvedKeys (resolved : Array (List SymbolKey)) (index : Int) : List SymbolKey :=
  (resolved[index.toNat]?).getD []

theorem atIndex_resolvedKeys {resolved : Array (List SymbolKey)} {index : Int}
    (h : IsSlot resolved.size index) :
    atIndex resolved index = .ok (resolvedKeys resolved index) := by
  obtain ⟨slot, hslot, rfl⟩ := isSlot_iff.mp h
  apply atIndex_eq_ok_iff.mpr
  refine ⟨slot, rfl, ?_⟩
  rw [resolvedKeys, Int.toNat_natCast, Array.getElem?_eq_getElem hslot, Option.getD_some]

/-- Where no index is bad, the uses of a tree with its types resolved are those that the dumped tree
mentions, in the order of a walk before the types are resolved. -/
theorem uses_eq_mentions_resolved (table : TypeTable) (node : Node Int)
    (htable : table.Closed) (hnode : ∀ index ∈ node.payloads, IsSlot table.size index) :
    ∃ resolved mapped, table.resolve = .ok resolved ∧
      node.mapTypesM (atIndex resolved) = .ok mapped ∧
      uses mapped =
        (node.preorder.flatMap Node.mentions).flatMap (Mention.keys (resolvedKeys resolved)) := by
  obtain ⟨resolved, hresolved, hsize, -⟩ := exists_resolve_eq_ok htable
  refine ⟨resolved, node.mapTypes (resolvedKeys resolved), hresolved, ?_, ?_⟩
  · apply Node.mapTypesM_eq_ok
    intro index hindex
    apply atIndex_resolvedKeys
    rw [hsize]
    exact hnode index hindex
  · exact uses_mapTypes (resolvedKeys resolved) node

/-- A name, and a type that mentions it twice and itself. -/
def pairTable : TypeTable := #[.var ⟨⟨5⟩, "a"⟩, .struct [0, 1, 0]]

/-- A node with a type, a used entity with a type, a declared one with a type, and a module. -/
def pairNode : Node Int :=
  .mk [] [1] [⟨.entity ⟨⟨6⟩, "f"⟩, some 0, [.use, .unrecognized]⟩,
      ⟨.entity ⟨⟨7⟩, "T"⟩, some 1, [.dataDecl]⟩, ⟨.module "M", some 0, [.use]⟩]
    [.mk [] [0] [⟨.entity ⟨⟨8⟩, "g"⟩, none, [.use]⟩] []]

theorem uses_eq_mentions_resolved_pairNode :
    pairTable.Closed ∧ (∀ index ∈ pairNode.payloads, IsSlot pairTable.size index) ∧
      pairNode.preorder.flatMap Node.mentions =
        [.type 1, .symbol ⟨6⟩, .type 0, .type 0, .symbol ⟨8⟩] ∧
      ∃ resolved mapped, pairTable.resolve = .ok resolved ∧
        pairNode.mapTypesM (atIndex resolved) = .ok mapped ∧
        uses mapped = (pairNode.preorder.flatMap Node.mentions).flatMap
          (Mention.keys (resolvedKeys resolved)) := by
  have htable : pairTable.Closed := by decide
  have hnode : ∀ index ∈ pairNode.payloads, IsSlot pairTable.size index := by decide
  exact ⟨htable, hnode, rfl, uses_eq_mentions_resolved pairTable pairNode htable hnode⟩

end TypeTable

end DeclGraph
