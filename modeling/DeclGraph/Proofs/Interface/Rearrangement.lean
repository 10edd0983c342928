import Mathlib.Data.List.Perm.Basic
import DeclGraph.Proofs.Interface.Window

/-!
Dumps whose siblings are moved: the same entities are read from them, in another order.
-/

namespace DeclGraph

open Grammar

theorem flatMap_perm_of_forall₂ {α β γ : Type} {R : α → β → Prop} {f : α → List γ} {g : β → List γ}
    {as : List α} {bs : List β} (h : List.Forall₂ R as bs)
    (hfg : ∀ a ∈ as, ∀ b, R a b → (f a).Perm (g b)) : (as.flatMap f).Perm (bs.flatMap g) := by
  induction h with
  | nil => exact .refl []
  | @cons a b as bs hab _ ih =>
      rw [List.flatMap_cons, List.flatMap_cons]
      have hrest := ih fun other hother => hfg other (List.mem_cons_of_mem a hother)
      exact (hfg a List.mem_cons_self b hab).append hrest

namespace Node

variable {τ σ : Type}

/-- The same tree, but for the order of the types, of the identifiers and of the children of each
node. -/
inductive Rearranged : Node τ → Node τ → Prop where
  | intro {node node' : Node τ} {moved : List (Node τ)}
      (annotations : node.annotations = node'.annotations)
      (types : node.types.Perm node'.types)
      (identifiers : node.identifiers.Perm node'.identifiers)
      (each : List.Forall₂ Rearranged node.children moved)
      (order : moved.Perm node'.children) : Rearranged node node'

theorem Rearranged.refl (node : Node τ) : Rearranged node node := by
  induction node using childInduction with
  | step node ih =>
      exact .intro rfl (.refl _) (.refl _) (List.forall₂_same.mpr ih) (.refl _)

theorem Rearranged.payloads_perm {node node' : Node τ} (h : Rearranged node node') :
    node.payloads.Perm node'.payloads := by
  induction node using childInduction generalizing node' with
  | step node ih =>
      obtain ⟨-, htypes, hidentifiers, heach, horder⟩ := h
      rw [payloads_eq, payloads_eq]
      refine (htypes.append (hidentifiers.filterMap _)).append ?_
      exact (flatMap_perm_of_forall₂ heach fun child hchild _ => ih child hchild).trans
        (horder.flatMap_right _)

theorem Rearranged.mapTypes {node node' : Node τ} (h : Rearranged node node') (f : τ → σ) :
    Rearranged (node.mapTypes f) (node'.mapTypes f) := by
  induction node using childInduction generalizing node' with
  | step node ih =>
      obtain ⟨hannotations, htypes, hidentifiers, heach, horder⟩ := h
      refine .intro (by simpa using hannotations) (by simpa using htypes.map f)
        (by simpa using hidentifiers.map _) ?_ (by simpa using horder.map (Node.mapTypes f))
      rw [children_mapTypes, List.forall₂_map_left_iff, List.forall₂_map_right_iff]
      rw [List.forall₂_iff_zip] at heach ⊢
      exact ⟨heach.1, fun hpair => ih _ (List.of_mem_zip hpair).1 (heach.2 hpair)⟩

theorem Rearranged.uses_perm {node node' : ResolvedNode} (h : Rearranged node node') :
    (uses node).Perm (uses node') := by
  induction node using childInduction generalizing node' with
  | step node ih =>
      obtain ⟨-, htypes, hidentifiers, heach, horder⟩ := h
      rw [uses_eq, uses_eq]
      refine (htypes.flatten.append (hidentifiers.flatMap_right _)).append ?_
      exact (flatMap_perm_of_forall₂ heach fun child hchild _ => ih child hchild).trans
        (horder.flatMap_right _)

end Node

namespace Likeness

/-- Everything counts but the order of siblings, and of the keys in a use list. -/
def upToOrder : Likeness where
  arrangement := .free
  name := Eq
  imported := Eq
  uses := List.Perm

theorem upToOrder_entries {τ : Type} (entry : IdentifierEntry τ) : upToOrder.Entries entry entry := by
  refine ⟨?_, SameSet.refl _⟩
  cases entry.identifier <;> rfl

end Likeness

open Likeness

theorem Node.Rearranged.heads {node node' : ResolvedNode} (h : Rearranged node node')
    (tagged : Nat) : upToOrder.Heads tagged node node' := by
  have huses := h.uses_perm
  obtain ⟨hannotations, -, hidentifiers, -, -⟩ := h
  refine ⟨fun _ => hannotations ▸ SameSet.refl _, ⟨node.identifiers, ?_, hidentifiers⟩, huses⟩
  exact List.forall₂_same.mpr fun entry _ => upToOrder_entries entry

theorem Node.Rearranged.nodes {node node' : ResolvedNode} (h : Rearranged node node')
    (tagged depth : Nat) : upToOrder.Nodes tagged depth node node' := by
  induction depth generalizing tagged node node' with
  | zero => exact h.heads tagged
  | succ depth ih =>
      refine ⟨h.heads tagged, ?_⟩
      obtain ⟨-, -, -, heach, horder⟩ := h
      exact ⟨_, heach.imp fun _ _ hchild => ih hchild (tagged - 1), horder⟩

namespace Interface

theorem Closed.rearrange {dump : Interface} {roots : List (Node Int)} (closed : dump.Closed)
    (h : Arrangement.free.Match Node.Rearranged dump.roots roots) :
    Closed { dump with roots := roots } := by
  obtain ⟨moved, heach, horder⟩ := h
  have hindices : dump.typeIndices.Perm (roots.flatMap Node.payloads) :=
    (flatMap_perm_of_forall₂ heach fun _ _ _ hroot => hroot.payloads_perm).trans
      (horder.flatMap_right _)
  exact ⟨closed.types, fun index hindex => closed.roots index (hindices.mem_iff.mpr hindex)⟩

/-- Moving siblings at any depth moves what is read, and changes nothing else. -/
theorem parse_rearranged (dump : Interface) (closed : dump.Closed) (roots : List (Node Int))
    (hroots : Arrangement.free.Match Node.Rearranged dump.roots roots) :
    ∃ result result', dump.parse = .ok result ∧
      parse { dump with roots := roots } = .ok result' ∧
      Option.Rel upToOrder.Modules result result' := by
  refine parse_alike upToOrder closed (closed.rearrange hroots) rfl rfl ?_
  exact hroots.imp fun _ _ hroot => (hroot.mapTypes _).nodes 3 5

/-- The import of `windowDump` after its declaration, and the constructor before the name of the
data type. -/
def movedRoots : List (Node Int) :=
  [.mk [.moduleRoot] [] [] [
    .mk [] [0] [] [recordNode, entityNode .dataDecl 1 none []],
    importNode "A"]]

theorem match_movedRoots : Arrangement.free.Match Node.Rearranged windowDump.roots movedRoots := by
  have hdata : Node.Rearranged (.mk [] [0] [] [entityNode .dataDecl 1 none [], recordNode])
      (.mk [] [0] [] [recordNode, entityNode .dataDecl 1 none []]) :=
    .intro rfl (.refl _) (.refl _) (List.forall₂_same.mpr fun child _ => .refl child) (.swap _ _ _)
  refine ⟨movedRoots, .cons ?_ .nil, .refl _⟩
  exact .intro rfl (.refl _) (.refl _) (.cons (.refl _) (.cons hdata .nil)) (.swap _ _ _)

theorem parse_rearranged_movedRoots :
    windowDump.Closed ∧ Arrangement.free.Match Node.Rearranged windowDump.roots movedRoots ∧
      ∃ result result', windowDump.parse = .ok result ∧
        parse { windowDump with roots := movedRoots } = .ok result' ∧
        Option.Rel upToOrder.Modules result result' :=
  ⟨by decide, match_movedRoots,
    parse_rearranged windowDump (by decide) movedRoots match_movedRoots⟩

end Interface

end DeclGraph
