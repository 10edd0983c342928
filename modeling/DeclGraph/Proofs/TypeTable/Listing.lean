import DeclGraph.Proofs.TypeTable.Resolved

/-!
Resolved types, without an expansion: a structural slot becomes the names at the references that
can be reached from it, in the order of the least paths to them.
-/

namespace DeclGraph.TypeTable

/-- A place at which a structural slot refers to something. -/
structure Occurrence where
  slot : Nat
  position : Nat
deriving DecidableEq, Repr

/-- The occurrence refers to a slot that holds `name`. -/
def Names (table : TypeTable) (occurrence : Occurrence) (name : Name) : Prop :=
  ∃ target : Nat, table.Refers occurrence.slot occurrence.position target ∧
    table[target]? = some (.var name)

/-- The least path to the first occurrence, continued by its position, is smaller than that of the
second. -/
def Precedes (table : TypeTable) (start : Nat) (first second : Occurrence) : Prop :=
  ∃ path path', IsLeast (table.simplePaths start first.slot) path ∧
    IsLeast (table.simplePaths start second.slot) path' ∧
    path ++ [first.position] < path' ++ [second.position]

/-- The list holds each reachable occurrence of a name once, in order. -/
structure IsLeafListing (table : TypeTable) (start : Nat) (occurrences : List Occurrence) :
    Prop where
  nodup : occurrences.Nodup
  mem_iff : ∀ occurrence, occurrence ∈ occurrences ↔
    table.Reachable start occurrence.slot ∧ ∃ name, table.Names occurrence name
  sorted : occurrences.Pairwise (table.Precedes start)

/-- The keys that a slot stands for: the key of a named slot, and for a structural slot the keys of
all names that it mentions. -/
def StandsFor (table : TypeTable) (slot : Nat) (keys : List SymbolKey) : Prop :=
  (∃ name, table[slot]? = some (.var name) ∧ keys = [name.key]) ∨
    (table.IsStruct slot ∧ ∃ occurrences, table.IsLeafListing slot occurrences ∧
      List.Forall₂ (fun occurrence key => ∃ name, table.Names occurrence name ∧ name.key = key)
        occurrences keys)

variable {table : TypeTable}

/-! The description determines the keys -/

theorem Names.unique {occurrence : Occurrence} {name name' : Name}
    (h : table.Names occurrence name) (h' : table.Names occurrence name') : name = name' := by
  obtain ⟨target, hrefers, htarget⟩ := h
  obtain ⟨target', hrefers', htarget'⟩ := h'
  have heq := Int.ofNat_inj.mp (hrefers.index_unique hrefers')
  rw [← heq, htarget] at htarget'
  cases htarget'
  rfl

theorem Precedes.asymm {start : Nat} {first second : Occurrence}
    (h : table.Precedes start first second) : ¬ table.Precedes start second first := by
  rintro ⟨path', path, hpath', hpath, hlt⟩
  obtain ⟨least, least', hleast, hleast', hlt'⟩ := h
  rw [hleast.unique hpath, hleast'.unique hpath'] at hlt'
  exact lt_asymm hlt hlt'

theorem IsLeafListing.unique {start : Nat} {occurrences occurrences' : List Occurrence}
    (h : table.IsLeafListing start occurrences) (h' : table.IsLeafListing start occurrences') :
    occurrences = occurrences' := by
  have hmem : ∀ occurrence, occurrence ∈ occurrences ↔ occurrence ∈ occurrences' := by
    intro occurrence
    rw [h.mem_iff, h'.mem_iff]
  have hperm := (List.perm_ext_iff_of_nodup h.nodup h'.nodup).mpr hmem
  exact hperm.eq_of_pairwise (fun _ _ _ _ hlt hgt => absurd hgt hlt.asymm) h.sorted h'.sorted

/-- A slot stands for one list of keys. -/
theorem StandsFor.unique {slot : Nat} {keys keys' : List SymbolKey}
    (h : table.StandsFor slot keys) (h' : table.StandsFor slot keys') : keys = keys' := by
  rcases h with ⟨name, hname, rfl⟩ | ⟨⟨refs, hrefs⟩, occurrences, hlisting, hkeys⟩
  · rcases h' with ⟨name', hname', rfl⟩ | ⟨⟨refs', hrefs'⟩, -⟩
    · rw [hname] at hname'
      cases hname'
      rfl
    · rw [hname] at hrefs'
      cases hrefs'
  · rcases h' with ⟨name', hname', -⟩ | ⟨-, occurrences', hlisting', hkeys'⟩
    · rw [hrefs] at hname'
      cases hname'
    · rw [hlisting.unique hlisting'] at hkeys
      refine Relator.RightUnique.forall₂ ?_ hkeys hkeys'
      rintro occurrence key key' ⟨name, hname, rfl⟩ ⟨name', hname', rfl⟩
      rw [hname.unique hname']

/-! What an expansion lists -/

def leafOccurrences (table : TypeTable) (visits : List Visit) : List Occurrence :=
  (visits.filter fun visit => (table.named? visit.index).isSome).map fun visit =>
    ⟨visit.slot, visit.position⟩

theorem mem_leafOccurrences {visits : List Visit}
    (hrefers : ∀ visit ∈ visits, table.Refers visit.slot visit.position visit.index)
    {occurrence : Occurrence} :
    occurrence ∈ table.leafOccurrences visits ↔
      (∃ visit ∈ visits, visit.slot = occurrence.slot ∧ visit.position = occurrence.position) ∧
        ∃ name, table.Names occurrence name := by
  simp only [leafOccurrences, List.mem_map, List.mem_filter, Option.isSome_iff_exists]
  constructor
  · rintro ⟨visit, ⟨hvisit, name, hname⟩, rfl⟩
    obtain ⟨target, hindex, htarget⟩ := named?_eq_some_iff.mp hname
    have href := hrefers visit hvisit
    rw [hindex] at href
    exact ⟨⟨visit, hvisit, rfl, rfl⟩, name, target, href, htarget⟩
  · rintro ⟨⟨visit, hvisit, hslot, hposition⟩, name, target, href, htarget⟩
    rw [← hslot, ← hposition] at href
    have hindex := (hrefers visit hvisit).index_unique href
    refine ⟨visit, ⟨hvisit, name, named?_eq_some_iff.mpr ⟨target, hindex, htarget⟩⟩, ?_⟩
    rw [hslot, hposition]

theorem forall₂_leafOccurrences {visits : List Visit}
    (hrefers : ∀ visit ∈ visits, table.Refers visit.slot visit.position visit.index) :
    List.Forall₂ (fun occurrence key => ∃ name, table.Names occurrence name ∧ name.key = key)
      (table.leafOccurrences visits)
      (((visits.map Visit.index).filterMap table.named?).map Name.key) := by
  induction visits with
  | nil => exact .nil
  | cons visit visits ih =>
      have hrest := ih fun other hother => hrefers other (List.mem_cons_of_mem visit hother)
      rw [leafOccurrences, List.filter_cons, List.map_cons, List.filterMap_cons]
      cases hname : table.named? visit.index with
      | none => exact hrest
      | some name =>
          obtain ⟨target, hindex, htarget⟩ := named?_eq_some_iff.mp hname
          have href := hrefers visit List.mem_cons_self
          rw [hindex] at href
          exact .cons ⟨name, ⟨target, href, htarget⟩, rfl⟩ hrest

theorem isLeafListing_leafOccurrences {slot : Nat} {refs : List Int}
    (hslot : table[slot]? = some (.struct refs)) :
    table.IsLeafListing slot (table.leafOccurrences (table.slotVisits slot refs)) := by
  have hleast := least_of_mem_slotVisits hslot
  have hrefers := fun visit hvisit => (hleast visit hvisit).2
  have hsorted : (table.leafOccurrences (table.slotVisits slot refs)).Pairwise
      (table.Precedes slot) := by
    refine List.pairwise_map.mpr (((pairwise_slotVisits hslot).imp_of_mem ?_).filter _)
    intro x y hx hy hlt
    exact ⟨x.path, y.path, (hleast x hx).1, (hleast y hy).1, hlt⟩
  refine ⟨hsorted.imp ?_, ?_, hsorted⟩
  · rintro first second ⟨path, path', hpath, hpath', hlt⟩ rfl
    rw [hpath.unique hpath'] at hlt
    exact lt_irrefl _ hlt
  · intro occurrence
    rw [mem_leafOccurrences hrefers]
    refine and_congr_left ?_
    rintro ⟨name, target, href, -⟩
    constructor
    · rintro ⟨visit, hvisit, hslot', -⟩
      rw [← hslot']
      exact reachable_of_mem_simplePaths (hleast visit hvisit).1.1
    · intro hreach
      obtain ⟨visit, hvisit, hslot', hposition, -⟩ := exists_mem_slotVisits hslot hreach href
      exact ⟨visit, hvisit, hslot', hposition⟩

theorem resolveSlot_standsFor (closed : table.Closed) {slot : Nat} (hslot : slot < table.size) :
    ∃ keys, table.resolveSlot slot = .ok keys ∧ table.StandsFor slot keys := by
  have hget : table[slot]? = some table[slot] := Array.getElem?_eq_getElem hslot
  cases hterm : table[slot] with
  | var name =>
      rw [hterm] at hget
      exact ⟨[name.key], resolveSlot_var hget, .inl ⟨name, hget, rfl⟩⟩
  | struct refs =>
      rw [hterm] at hget
      have hrefers := fun visit hvisit => (least_of_mem_slotVisits hget visit hvisit).2
      have hslots : ∀ index ∈ (table.slotVisits slot refs).map Visit.index,
          IsSlot table.size index := by
        intro index hindex
        obtain ⟨visit, hvisit, rfl⟩ := List.mem_map.mp hindex
        exact closed _ (mem_references_iff.mpr ⟨_, _, hrefers visit hvisit⟩)
      refine ⟨_, (resolveSlot_struct hget).trans (contributions_eq_ok hslots), .inr ⟨⟨refs, hget⟩,
        _, isLeafListing_leafOccurrences hget, forall₂_leafOccurrences hrefers⟩⟩

/-- Resolution of a closed table gives each slot the keys that it stands for. -/
theorem resolve_standsFor (table : TypeTable) (closed : table.Closed) :
    ∃ resolved, table.resolve = .ok resolved ∧ resolved.size = table.size ∧
      ∀ slot < table.size, ∃ keys, resolved[slot]? = some keys ∧ table.StandsFor slot keys := by
  obtain ⟨resolved, hresolved⟩ := exists_resolve_eq_ok_iff.mpr closed
  obtain ⟨hsize, hresults⟩ := resolve_eq_ok_iff.mp hresolved
  refine ⟨resolved, hresolved, hsize, ?_⟩
  intro slot hslot
  obtain ⟨keys, hkeys, hmeaning⟩ := resolveSlot_standsFor closed hslot
  obtain ⟨keys', hget, hkeys'⟩ := hresults slot hslot
  rw [hkeys] at hkeys'
  cases hkeys'
  exact ⟨keys, hget, hmeaning⟩

/-- A slot that refers to itself, two that refer to each other, and two names. -/
def mutualTable : TypeTable :=
  #[.struct [1, 3, 0], .struct [2], .struct [1, 4, 3], .var ⟨⟨7⟩, "A"⟩, .var ⟨⟨8⟩, "B"⟩]

theorem resolve_standsFor_mutualTable :
    mutualTable.Closed ∧
      ∃ resolved, mutualTable.resolve = .ok resolved ∧ resolved.size = mutualTable.size ∧
        ∀ slot < mutualTable.size,
          ∃ keys, resolved[slot]? = some keys ∧ mutualTable.StandsFor slot keys :=
  ⟨by decide, resolve_standsFor mutualTable (by decide)⟩

example : mutualTable.resolve =
    .ok #[[⟨8⟩, ⟨7⟩, ⟨7⟩], [⟨8⟩, ⟨7⟩], [⟨8⟩, ⟨7⟩], [⟨7⟩], [⟨8⟩]] := by cbv

end DeclGraph.TypeTable
