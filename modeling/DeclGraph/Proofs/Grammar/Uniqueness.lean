import Mathlib.Algebra.GroupWithZero.Nat
import Mathlib.Algebra.Order.BigOperators.Group.List
import Mathlib.Algebra.Order.Group.Nat
import DeclGraph.Proofs.Grammar.Production

/-!
Names that are found as the only match among the children of a node, each child being searched for
its only entry. A child that holds several entries for the role is passed over like one that holds
none, so a match says less than that the children hold one entry together.
-/

namespace DeclGraph

variable {τ α β : Type}

namespace Query

/-- The element matches, and no other position of the list holds a match. -/
structure IsOnly (matching : α → Bool) (as : List α) (a : α) : Prop where
  mem : a ∈ as
  holds : matching a = true
  count : as.countP matching = 1

/-- The only match stays the only one when fewer elements match. -/
theorem IsOnly.of_imp {matching stricter : α → Bool} {as : List α} {a : α}
    (h : IsOnly matching as a) (ha : stricter a = true)
    (himp : ∀ b, stricter b = true → matching b = true) : IsOnly stricter as a := by
  have hle : as.countP stricter ≤ 1 := h.count ▸ List.countP_mono_left fun b _ => himp b
  have hpos : 0 < as.countP stricter := List.countP_pos_iff.mpr ⟨a, h.mem, ha⟩
  exact ⟨h.mem, ha, by omega⟩

section Reading

variable {f : α → Option β} {matching : α → Bool} {as : List α}

theorem isSome_theOnly_iff (hmatching : ∀ a, (f a).isSome = matching a) :
    (theOnly (as.filterMap f)).isSome ↔ as.countP matching = 1 := by
  rw [theOnly_isSome_iff, List.length_filterMap_eq_countP, funext hmatching]

/-- The value that is read off the only match. -/
theorem theOnly_filterMap_eq_some_iff {means : α → β → Prop}
    (hmatching : ∀ a, (f a).isSome = matching a)
    (hmeans : ∀ a b, matching a = true → (f a = some b ↔ means a b)) {b : β} :
    theOnly (as.filterMap f) = some b ↔ ∃ a, IsOnly matching as a ∧ means a b := by
  constructor
  · intro h
    have hcount := (isSome_theOnly_iff hmatching).mp (Option.isSome_of_eq_some h)
    obtain ⟨a, hmem, ha⟩ := exists_mem_of_theOnly_filterMap h
    have hholds : matching a = true := (hmatching a).symm.trans (Option.isSome_of_eq_some ha)
    exact ⟨a, ⟨hmem, hholds, hcount⟩, (hmeans a b hholds).mp ha⟩
  · rintro ⟨a, honly, ha⟩
    have hread := (hmeans a b honly.holds).mpr ha
    obtain ⟨c, hc⟩ := Option.isSome_iff_exists.mp ((isSome_theOnly_iff hmatching).mpr honly.count)
    have hmem : b ∈ as.filterMap f := List.mem_filterMap.mpr ⟨a, honly.mem, hread⟩
    rw [theOnly_eq_some_iff.mp hc, List.mem_singleton] at hmem
    rw [hc, hmem]

end Reading

end Query

open Query

namespace IdentifierEntry

/-- The entry names an entity in the role. -/
def namesEntity (occurrence : Occurrence) : IdentifierEntry τ → Bool
  | ⟨.entity _, _, occurrences⟩ => decide (occurrence ∈ occurrences)
  | ⟨.module _, _, _⟩ => false

end IdentifierEntry

namespace Node

/-- The number of entries of the node that name an entity in the role. -/
def nameCount (occurrence : Occurrence) (node : Node τ) : Nat :=
  node.identifiers.countP (IdentifierEntry.namesEntity occurrence)

/-- The number of such entries that the children hold together. -/
def childNameCount (occurrence : Occurrence) (node : Node τ) : Nat :=
  (node.children.flatMap Node.identifiers).countP (IdentifierEntry.namesEntity occurrence)

def hasOneName (occurrence : Occurrence) (node : Node τ) : Bool := node.nameCount occurrence == 1

end Node

namespace Grammar

variable {node : ResolvedNode} {occurrence : Occurrence}

/-- The name is that of the only entry for the role, at the only child that has exactly one. -/
def NamedBy (node : ResolvedNode) (occurrence : Occurrence) (name : Name) : Prop :=
  ∃ child, IsOnly (Node.hasOneName occurrence) node.children child ∧
    ∃ entry, IsOnly (IdentifierEntry.namesEntity occurrence) child.identifiers entry ∧
      entry.identifier = .entity name

theorem isSome_entityEntry (entry : ResolvedEntry) :
    (entityEntry (fun occurrences => decide (occurrence ∈ occurrences)) entry).isSome =
      entry.namesEntity occurrence := by
  rcases entry with ⟨name | name, type, occurrences⟩
  · by_cases h : occurrence ∈ occurrences <;> simp [entityEntry, IdentifierEntry.namesEntity, h]
  · rfl

theorem entityEntry_eq_some_iff (entry : ResolvedEntry) (name : Name)
    (h : entry.namesEntity occurrence = true) :
    entityEntry (fun occurrences => decide (occurrence ∈ occurrences)) entry = some name ↔
      entry.identifier = .entity name := by
  rcases entry with ⟨name' | name', type, occurrences⟩
  · have hmem : decide (occurrence ∈ occurrences) = true := h
    rw [entityEntry, if_pos hmem, Identifier.entity.injEq]
    exact Option.some_inj
  · cases h

theorem declaredName_eq_some_iff {name : Name} :
    declaredName (fun occurrences => decide (occurrence ∈ occurrences)) node = some name ↔
      ∃ entry, IsOnly (IdentifierEntry.namesEntity occurrence) node.identifiers entry ∧
        entry.identifier = .entity name := by
  rw [declaredName_eq]
  exact theOnly_filterMap_eq_some_iff isSome_entityEntry entityEntry_eq_some_iff

theorem isSome_declaredName (node : ResolvedNode) :
    (declaredName (fun occurrences => decide (occurrence ∈ occurrences)) node).isSome =
      node.hasOneName occurrence := by
  rw [Bool.eq_iff_iff, declaredName_eq, Node.hasOneName, beq_iff_eq]
  exact isSome_theOnly_iff isSome_entityEntry

theorem uniqueNameChild_eq_some_iff {name : Name} :
    uniqueNameChild occurrence node = some name ↔ NamedBy node occurrence name := by
  rw [uniqueNameChild_eq]
  exact theOnly_filterMap_eq_some_iff isSome_declaredName fun _ _ _ => declaredName_eq_some_iff

theorem isSome_uniqueNameChild :
    (uniqueNameChild occurrence node).isSome ↔
      node.children.countP (Node.hasOneName occurrence) = 1 := by
  rw [uniqueNameChild_eq]
  exact isSome_theOnly_iff isSome_declaredName

/-! How many entries the children hold together -/

theorem sum_map_eq_countP {count : α → Nat} {as : List α} (h : ∀ a ∈ as, count a ≤ 1) :
    (as.map count).sum = as.countP fun a => count a == 1 := by
  induction as with
  | nil => rfl
  | cons a as ih =>
      obtain ⟨ha, has⟩ := List.forall_mem_cons.mp h
      have hrest := ih has
      rcases Nat.le_one_iff_eq_zero_or_eq_one.mp ha with hzero | hone
      · simp [hzero, hrest]
      · simp [hone, hrest, Nat.add_comm]

theorem sum_map_eq_one_iff {count : α → Nat} {as : List α} :
    (as.map count).sum = 1 ↔
      (as.countP fun a => count a == 1) = 1 ∧ ∀ a ∈ as, count a ≤ 1 := by
  constructor
  · intro hsum
    have hle : ∀ a ∈ as, count a ≤ 1 := fun a ha =>
      hsum ▸ List.le_sum_of_mem (List.mem_map_of_mem ha)
    exact ⟨(sum_map_eq_countP hle).symm.trans hsum, hle⟩
  · rintro ⟨hcount, hle⟩
    rw [sum_map_eq_countP hle, hcount]

theorem childNameCount_eq_one_iff :
    node.childNameCount occurrence = 1 ↔
      node.children.countP (Node.hasOneName occurrence) = 1 ∧
        ∀ child ∈ node.children, child.nameCount occurrence ≤ 1 := by
  rw [Node.childNameCount, List.countP_flatMap]
  exact sum_map_eq_one_iff

/-- A name that a production has found: when there is one, whose name it is, and when it is the
only one among the entries of all children. -/
structure FindsName (node : ResolvedNode) (occurrence : Occurrence) (found : Option Name) :
    Prop where
  isSome_iff : found.isSome ↔ node.children.countP (Node.hasOneName occurrence) = 1
  eq_some_iff : ∀ name, found = some name ↔ NamedBy node occurrence name
  one_iff : node.childNameCount occurrence = 1 ↔
    found.isSome ∧ ∀ child ∈ node.children, child.nameCount occurrence ≤ 1

theorem findsName_uniqueNameChild (node : ResolvedNode) (occurrence : Occurrence) :
    FindsName node occurrence (uniqueNameChild occurrence node) where
  isSome_iff := isSome_uniqueNameChild
  eq_some_iff := fun _ => uniqueNameChild_eq_some_iff
  one_iff := by rw [isSome_uniqueNameChild, childNameCount_eq_one_iff]

/-- A data type, a constructor and a field each have the only entry for their role at the only child
with exactly one. The children hold no other entry for it unless one of them holds several. -/
theorem productions_findsName (node : ResolvedNode) :
    FindsName node .dataDecl ((dataType node).map fun type => ⟨type.key, type.name⟩) ∧
      FindsName node .conDecl ((constructor node).map fun con => ⟨con.key, con.name⟩) ∧
      FindsName node .recordFieldDecl
        ((recordField node).map fun field => ⟨field.key, field.name⟩) := by
  have hdata : (dataType node).map (fun type => ⟨type.key, type.name⟩) =
      uniqueNameChild .dataDecl node := by
    rw [dataType_eq, Option.map_map]
    exact Option.map_id'
  have hcon : (constructor node).map (fun con => ⟨con.key, con.name⟩) =
      uniqueNameChild .conDecl node := by
    rw [constructor_eq, Option.map_map]
    exact Option.map_id'
  have hfield : (recordField node).map (fun field => ⟨field.key, field.name⟩) =
      uniqueNameChild .recordFieldDecl node := by
    rw [recordField, Option.map_map]
    exact Option.map_id'
  rw [hdata, hcon, hfield]
  exact ⟨findsName_uniqueNameChild node _, findsName_uniqueNameChild node _,
    findsName_uniqueNameChild node _⟩

/-- A child with two entries for the role, before one with a single entry for it. -/
def thriceNamed (occurrence : Occurrence) : ResolvedNode :=
  let entry (key : Int) (occ : String) : ResolvedEntry :=
    ⟨.entity ⟨⟨key⟩, occ⟩, none, [occurrence]⟩
  .mk [] [] [] [.mk [] [] [entry 1 "A", entry 2 "B"] [], .mk [] [] [entry 3 "C"] []]

/-- A production may match although the children hold several entries for its role. -/
theorem exists_match_of_several_names :
    (¬ ∀ node type, dataType node = some type → node.childNameCount .dataDecl = 1) ∧
      (¬ ∀ node con, constructor node = some con → node.childNameCount .conDecl = 1) ∧
      ¬ ∀ node field, recordField node = some field →
        node.childNameCount .recordFieldDecl = 1 := by
  refine ⟨fun h => ?_, fun h => ?_, fun h => ?_⟩
  · exact absurd (h (thriceNamed .dataDecl) ⟨⟨3⟩, "C", []⟩ rfl) (by decide)
  · exact absurd (h (thriceNamed .conDecl) ⟨⟨3⟩, "C", .naked []⟩ rfl) (by decide)
  · exact absurd (h (thriceNamed .recordFieldDecl) ⟨⟨3⟩, "C", []⟩ rfl) (by decide)

end Grammar

end DeclGraph
