import DeclGraph.Grammar.ModuleBody

/-!
What each production reads off a node, as an equation on lists of children and entries.
-/

namespace DeclGraph

namespace Query

variable {α β : Type}

theorem theOnly_eq_some_iff {as : List α} {a : α} : theOnly as = some a ↔ as = [a] := by
  rcases as with _ | ⟨b, _ | ⟨c, as⟩⟩ <;> simp [theOnly]

theorem theOnly_isSome_iff {as : List α} : (theOnly as).isSome ↔ as.length = 1 := by
  rcases as with _ | ⟨b, _ | ⟨c, as⟩⟩ <;> simp [theOnly]

theorem exists_mem_of_theOnly_filterMap {f : α → Option β} {as : List α} {b : β}
    (h : theOnly (as.filterMap f) = some b) : ∃ a ∈ as, f a = some b := by
  apply List.mem_filterMap.mp
  rw [theOnly_eq_some_iff.mp h]
  exact List.mem_singleton_self b

end Query

namespace Grammar

open Query

variable (node : ResolvedNode)

theorem annotated_eq (role : Annotation) :
    annotated role node = if role ∈ node.annotations then some () else none := by
  by_cases h : role ∈ node.annotations <;> simp [annotated, check, h, pure]

theorem untagged_eq : untagged node = if node.annotations = [] then some () else none := by
  cases h : node.annotations <;> simp [untagged, check, h, pure]

theorem annotated_eq_some_iff {role : Annotation} :
    annotated role node = some () ↔ role ∈ node.annotations := by
  rw [annotated_eq, Option.ite_none_right_eq_some]
  exact and_iff_left rfl

theorem untagged_eq_some_iff : untagged node = some () ↔ node.annotations = [] := by
  rw [untagged_eq, Option.ite_none_right_eq_some]
  exact and_iff_left rfl

theorem declaredName_eq (accepts : List Occurrence → Bool) :
    declaredName accepts node = theOnly (node.identifiers.filterMap (entityEntry accepts)) :=
  one_id _ _ _

theorem uniqueNameChild_eq (occurrence : Occurrence) :
    uniqueNameChild occurrence node =
      theOnly (node.children.filterMap
        (declaredName fun occurrences => decide (occurrence ∈ occurrences))) :=
  one_id _ _ _

theorem recordFields_eq :
    recordFields node =
      if (node.children.filterMap recordField).isEmpty then none
      else some (node.children.filterMap recordField) :=
  many1_id _ _ _

theorem recordFields_eq_some_iff {fields : List RecordField} :
    recordFields node = some fields ↔
      fields = node.children.filterMap recordField ∧ fields ≠ [] := by
  rw [recordFields_eq]
  split
  · rename_i hnil
    constructor
    · rintro ⟨⟩
    · rintro ⟨rfl, hne⟩
      exact absurd (List.isEmpty_iff.mp hnil) hne
  · rename_i hne
    constructor
    · rintro ⟨⟩
      exact ⟨rfl, fun hnil => hne (List.isEmpty_iff.mpr hnil)⟩
    · rintro ⟨rfl, -⟩
      rfl

theorem fieldContainer_eq :
    fieldContainer node = theOnly (node.children.filterMap recordFields) :=
  one_id _ _ _

theorem constructorBody_eq :
    constructorBody node =
      some ((fieldContainer node).elim (.naked (uses node)) .record) := by
  rw [constructorBody, first_id]
  simp only [List.findSome?_cons, recordBody, nakedBody]
  cases fieldContainer node <;> rfl

theorem constructor_eq :
    constructor node =
      (uniqueNameChild .conDecl node).map fun name =>
        ⟨name.key, name.occ, (fieldContainer node).elim (.naked (uses node)) .record⟩ := by
  rw [constructor, constructorBody_eq]
  cases uniqueNameChild .conDecl node <;> rfl

theorem dataType_eq :
    dataType node =
      (uniqueNameChild .dataDecl node).map fun name =>
        ⟨name.key, name.occ, node.children.filterMap constructor⟩ := by
  rw [dataType, constructors, many_id]
  cases uniqueNameChild .dataDecl node <;> rfl

theorem topLevelDecl_eq : topLevelDecl node = (dataType node).map .data := by
  rw [topLevelDecl, first_id]
  simp only [List.findSome?_cons]
  cases dataType node <;> rfl

theorem importedName_eq :
    importedName node = theOnly (node.identifiers.filterMap importedModule) :=
  one_id _ _ _

theorem importChild_eq :
    importChild node = if node.annotations = [] then importedName node else none := by
  rw [importChild, untagged_eq]
  split <;> rfl

theorem importDecl_eq :
    importDecl node =
      if .importDecl ∈ node.annotations then theOnly (node.children.filterMap importChild)
      else none := by
  rw [importDecl, annotated_eq, uniqueImportChild, one_id]
  split <;> rfl

theorem item_eq :
    item node =
      match importDecl node with
      | some name => some (.imported name)
      | none => (dataType node).map fun type => .declared (.data type) := by
  rw [item, first_id]
  simp only [List.findSome?_cons, topLevelDecl_eq]
  cases importDecl node with
  | some name => rfl
  | none => cases dataType node <;> rfl

theorem moduleBody_eq (name path : String) :
    moduleBody name path node =
      if .moduleRoot ∈ node.annotations then
        some ⟨name, path, (node.children.filterMap item).filterMap Item.import?,
          (node.children.filterMap item).filterMap Item.decl?⟩
      else none := by
  rw [moduleBody, annotated_eq, items, many_id]
  split <;> rfl

theorem moduleBody_eq_some_iff {name path : String} {module : Module} :
    moduleBody name path node = some module ↔
      .moduleRoot ∈ node.annotations ∧
        module = ⟨name, path, (node.children.filterMap item).filterMap Item.import?,
          (node.children.filterMap item).filterMap Item.decl?⟩ := by
  rw [moduleBody_eq]
  split
  · rename_i hroot
    constructor
    · rintro ⟨⟩
      exact ⟨hroot, rfl⟩
    · rintro ⟨-, rfl⟩
      rfl
  · rename_i hroot
    constructor
    · rintro ⟨⟩
    · exact fun h => absurd h.1 hroot

end Grammar

end DeclGraph
