import DeclGraph.Proofs.Grammar.Production

/-!
Where the use lists of a module come from: each is one block of the symbols that the root uses, and
the blocks follow each other in the order of the declarations.
-/

namespace DeclGraph

/-- The use lists of a body: one for a naked body, and one for each field of a record. -/
def ConstructorBody.useLists : ConstructorBody → List Uses
  | .naked uses => [uses]
  | .record fields => fields.map RecordField.uses

def DataType.useLists (type : DataType) : List Uses :=
  type.constructors.flatMap fun constructor => constructor.body.useLists

def Decl.useLists : Decl → List Uses
  | .data type => type.useLists
  | .value binding => [binding.uses]
  | .typeClass _ => []

/-- All use lists of a module, in the order of its declarations. -/
def Module.useLists (module : Module) : List Uses := module.decls.flatMap Decl.useLists

/-- The blocks stand in a list one after the other, with gaps before, between and after them. -/
inductive Blocks {α : Type} : List (List α) → List α → Prop where
  | nil (gap : List α) : Blocks [] gap
  | cons {blocks : List (List α)} {rest : List α} (gap block : List α) (later : Blocks blocks rest) :
      Blocks (block :: blocks) (gap ++ block ++ rest)

namespace Blocks

variable {α β γ : Type}

theorem single (block : List α) : Blocks [block] block := by
  simpa using Blocks.cons [] block (.nil [])

theorem append_left {blocks : List (List α)} {whole : List α} (h : Blocks blocks whole)
    (gap : List α) : Blocks blocks (gap ++ whole) := by
  cases h with
  | nil => exact .nil (gap ++ whole)
  | cons gap' block later => simpa using Blocks.cons (gap ++ gap') block later

theorem append {blocks blocks' : List (List α)} {whole whole' : List α}
    (h : Blocks blocks whole) (h' : Blocks blocks' whole') :
    Blocks (blocks ++ blocks') (whole ++ whole') := by
  induction h with
  | nil gap => exact h'.append_left gap
  | cons gap block _ ih => simpa using Blocks.cons gap block ih

/-- Passing over elements widens the gaps only. -/
theorem flatMap_filterMap {f : β → Option γ} {lists : γ → List (List α)} {whole : β → List α}
    {bs : List β} (h : ∀ b ∈ bs, ∀ c, f b = some c → Blocks (lists c) (whole b)) :
    Blocks ((bs.filterMap f).flatMap lists) (bs.flatMap whole) := by
  induction bs with
  | nil => exact .nil []
  | cons b bs ih =>
      have hrest := ih fun other hother => h other (List.mem_cons_of_mem b hother)
      rw [List.filterMap_cons, List.flatMap_cons]
      cases hb : f b with
      | none => exact hrest.append_left (whole b)
      | some c => exact (h b List.mem_cons_self c hb).append hrest

theorem of_theOnly {f : β → Option γ} {lists : γ → List (List α)} {whole : β → List α}
    {bs : List β} {c : γ} (honly : Query.theOnly (bs.filterMap f) = some c)
    (h : ∀ b ∈ bs, ∀ c, f b = some c → Blocks (lists c) (whole b)) :
    Blocks (lists c) (bs.flatMap whole) := by
  have hall := flatMap_filterMap h
  rw [Query.theOnly_eq_some_iff.mp honly] at hall
  simpa using hall

theorem exists_gaps {blocks : List (List α)} {whole : List α} (h : Blocks blocks whole) :
    ∃ gaps last, gaps.length = blocks.length ∧
      whole = (List.zipWith (· ++ ·) gaps blocks).flatten ++ last := by
  induction h with
  | nil gap => exact ⟨[], gap, rfl, rfl⟩
  | cons gap block _ ih =>
      obtain ⟨gaps, last, hlength, rfl⟩ := ih
      exact ⟨gap :: gaps, last, by simp [hlength], by simp⟩

end Blocks

namespace Grammar

variable {node : ResolvedNode}

theorem uses_eq (node : ResolvedNode) :
    uses node =
      node.types.flatten ++ node.identifiers.flatMap entryUses ++ node.children.flatMap uses := by
  cases node
  rw [uses, usesAll_eq_flatMap]
  rfl

theorem blocks_uses_of_children {lists : List Uses}
    (h : Blocks lists (node.children.flatMap uses)) : Blocks lists (uses node) := by
  rw [uses_eq]
  exact h.append_left _

theorem uses_of_recordField {field : RecordField} (h : recordField node = some field) :
    field.uses = uses node := by
  obtain ⟨name, -, rfl⟩ := Option.map_eq_some_iff.mp h
  rfl

theorem blocks_recordFields {fields : List RecordField} (h : recordFields node = some fields) :
    Blocks (fields.map RecordField.uses) (uses node) := by
  obtain ⟨rfl, -⟩ := (recordFields_eq_some_iff node).mp h
  apply blocks_uses_of_children
  rw [List.map_eq_flatMap]
  refine Blocks.flatMap_filterMap fun child _ field hfield => ?_
  rw [uses_of_recordField hfield]
  exact .single _

theorem blocks_fieldContainer {fields : List RecordField}
    (h : fieldContainer node = some fields) :
    Blocks (fields.map RecordField.uses) (uses node) := by
  rw [fieldContainer_eq] at h
  exact blocks_uses_of_children (Blocks.of_theOnly h fun child _ fields => blocks_recordFields)

theorem blocks_constructor {con : Constructor} (h : constructor node = some con) :
    Blocks con.body.useLists (uses node) := by
  rw [constructor_eq] at h
  obtain ⟨name, -, rfl⟩ := Option.map_eq_some_iff.mp h
  cases hfields : fieldContainer node with
  | some fields => exact blocks_fieldContainer hfields
  | none => exact .single (uses node)

theorem blocks_dataType {type : DataType} (h : dataType node = some type) :
    Blocks type.useLists (uses node) := by
  rw [dataType_eq] at h
  obtain ⟨name, -, rfl⟩ := Option.map_eq_some_iff.mp h
  exact blocks_uses_of_children (Blocks.flatMap_filterMap fun child _ con => blocks_constructor)

theorem dataType_of_item {decl : Decl} (h : item node = some (.declared decl)) :
    ∃ type, dataType node = some type ∧ decl = .data type := by
  rw [item_eq] at h
  split at h
  · cases h
  · obtain ⟨type, htype, heq⟩ := Option.map_eq_some_iff.mp h
    cases heq
    exact ⟨type, htype, rfl⟩

theorem blocks_decls (nodes : List ResolvedNode) :
    Blocks (((nodes.filterMap item).filterMap Item.decl?).flatMap Decl.useLists)
      (nodes.flatMap uses) := by
  rw [List.filterMap_filterMap]
  refine Blocks.flatMap_filterMap fun node _ decl hdecl => ?_
  obtain ⟨found, hfound, hdecl⟩ := Option.bind_eq_some_iff.mp hdecl
  cases found with
  | imported name => cases hdecl
  | declared decl' =>
      cases hdecl
      obtain ⟨type, htype, rfl⟩ := dataType_of_item hfound
      exact blocks_dataType htype

/-- The use lists of a module are blocks of what its root uses, in the same order. -/
theorem uses_eq_gaps_and_useLists (name path : String) (root : ResolvedNode) (module : Module)
    (h : moduleBody name path root = some module) :
    ∃ gaps last, gaps.length = module.useLists.length ∧
      uses root = (List.zipWith (· ++ ·) gaps module.useLists).flatten ++ last := by
  obtain ⟨-, rfl⟩ := (moduleBody_eq_some_iff root).mp h
  exact (blocks_uses_of_children (blocks_decls root.children)).exists_gaps

/-- A root with uses of its own, a record whose container holds uses beside its field, and a child
that is no declaration. -/
def boxRoot : ResolvedNode :=
  let leaf (occurrence : Occurrence) (key : Int) (children : List ResolvedNode) : ResolvedNode :=
    .mk [] [] [⟨.entity ⟨⟨key⟩, "x"⟩, none, [occurrence]⟩] children
  let box := .mk [] [[⟨20⟩]] [] [leaf .dataDecl 1 [], .mk [] [] [] [leaf .conDecl 2 [],
    .mk [] [] [] [leaf .use 21 [], .mk [] [] [] [leaf .recordFieldDecl 3 [], leaf .use 22 []]]],
    .mk [] [] [] [leaf .conDecl 4 [], leaf .use 23 []]]
  .mk [.moduleRoot] [] [⟨.entity ⟨⟨24⟩, "x"⟩, some [⟨25⟩], [.use]⟩] [box, leaf .use 26 []]

def boxModule : Module where
  name := "M"
  path := "M.hs"
  imports := []
  decls := [.data ⟨⟨1⟩, "x", [
    ⟨⟨2⟩, "x", .record [⟨⟨3⟩, "x", [⟨22⟩]⟩]⟩,
    ⟨⟨4⟩, "x", .naked [⟨23⟩]⟩]⟩]

theorem uses_eq_gaps_and_useLists_boxRoot :
    moduleBody "M" "M.hs" boxRoot = some boxModule ∧
      ∃ gaps last, gaps.length = boxModule.useLists.length ∧
        uses boxRoot = (List.zipWith (· ++ ·) gaps boxModule.useLists).flatten ++ last :=
  ⟨rfl, uses_eq_gaps_and_useLists "M" "M.hs" boxRoot boxModule rfl⟩

end Grammar

end DeclGraph
