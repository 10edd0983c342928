import DeclGraph.Proofs.TypeTable.Traversal

/-!
What an expansion keeps from one reference to the next. The pending references are the ways out of
the slots entered so far, in the order of the least paths, so the next slot to be entered has no
smaller path than the one on which it is entered.
-/

namespace DeclGraph.TypeTable

/-- The slot is entered on the least path to it, through slots entered before. -/
structure Entered (table : TypeTable) (start : Nat) (visited : List Nat) (slot : Nat)
    (path : List Nat) : Prop where
  least : IsLeast (table.simplePaths start slot) path
  within : ∃ slots, Route table start path slots slot ∧ slots ⊆ visited

/-- The state of an expansion that started at `start`. -/
structure Frontier (table : TypeTable) (start : Nat) (visited : List Nat)
    (pending : List Visit) : Prop where
  start_mem : start ∈ visited
  entered : ∀ visit ∈ pending, Entered table start visited visit.slot visit.path
  refers : ∀ visit ∈ pending, table.Refers visit.slot visit.position visit.index
  sorted : pending.Pairwise fun x y => Forks x.place y.place
  pending_or_done : ∀ slot ∈ visited, ∀ position index, table.Refers slot position index →
    (∃ visit ∈ pending, visit.IsAt slot position) ∨
      ∀ next : Nat, index = next → table.IsStruct next → next ∈ visited

variable {table : TypeTable} {start : Nat} {visited : List Nat} {visit : Visit}
  {pending : List Visit}

theorem Entered.mono {slot : Nat} {path : List Nat} (h : Entered table start visited slot path)
    (next : Nat) : Entered table start (next :: visited) slot path := by
  obtain ⟨slots, hroute, hsub⟩ := h.within
  exact ⟨h.least, slots, hroute, List.subset_cons_of_subset next hsub⟩

namespace Frontier

theorem first {refs : List Int} (hstart : table[start]? = some (.struct refs)) :
    Frontier table start [start] (visitsAt [] start refs) where
  start_mem := List.mem_singleton_self start
  entered := by
    intro visit hvisit
    obtain ⟨hpath, hslot, -⟩ := mem_visitsAt.mp hvisit
    rw [hpath, hslot]
    have hroute : Route table start [] [start] start := .stay start
    have hmem : [] ∈ table.simplePaths start start := ⟨[start], hroute, by simp⟩
    have hsmallest : [] ∈ lowerBounds (table.simplePaths start start) :=
      fun path _ => le_of_isPrefix List.nil_prefix
    exact ⟨⟨hmem, hsmallest⟩, [start], hroute, List.Subset.refl [start]⟩
  refers := by
    intro visit hvisit
    obtain ⟨-, hslot, href⟩ := mem_visitsAt.mp hvisit
    rw [hslot]
    exact ⟨refs, hstart, href⟩
  sorted := pairwise_visitsAt [] start refs
  pending_or_done := by
    intro slot hslot position index hrefers
    rw [List.mem_singleton] at hslot
    subst hslot
    exact .inl ⟨_, mem_visitsAt_of_refers hstart hrefers, rfl, rfl⟩

theorem place_le_of_mem (h : Frontier table start visited (visit :: pending)) {other : Visit}
    (hother : other ∈ visit :: pending) : visit.place ≤ other.place := by
  rcases List.mem_cons.mp hother with rfl | hother
  · exact le_refl _
  · exact ((List.pairwise_cons.mp h.sorted).1 other hother).lt.le

/-- A path to a slot that is still to be entered leaves the entered slots at a pending reference,
so it comes no earlier than the first of these. -/
theorem place_le_path (h : Frontier table start visited (visit :: pending)) {slot : Nat}
    (hstruct : table.IsStruct slot) (hfresh : slot ∉ visited) {path : List Nat}
    (hpath : path ∈ table.simplePaths start slot) : visit.place ≤ path := by
  obtain ⟨slots, hroute, hnodup⟩ := hpath
  obtain ⟨front, position, back, frontSlots, exit, next, backSlots, rfl, hfront, hpre, hexit,
    hrefers, hnext, hback⟩ := hroute.exit h.start_mem hfresh
  have hnextStruct : table.IsStruct next := hback.isStruct_first hstruct
  have hfrontPath : front ∈ table.simplePaths start exit :=
    ⟨frontSlots, hfront, hnodup.sublist hpre.sublist⟩
  rcases h.pending_or_done exit hexit position next hrefers with
    ⟨other, hother, rfl, rfl⟩ | hdone
  · refine (h.place_le_of_mem hother).trans ?_
    have hleast := (h.entered other hother).least
    rcases (hleast.2 hfrontPath).eq_or_lt with heq | hlt
    · apply le_of_isPrefix
      rw [Visit.place, heq]
      exact ⟨back, by simp⟩
    · have hforks : Forks other.path front := by
        apply forks_of_lt hlt
        intro hprefix
        exact hlt.ne (eq_of_prefix_of_mem_simplePaths hleast.1 hfrontPath hprefix)
      exact (hforks.append [other.position] (other.position :: back)).lt.le
  · exact absurd (hdone next rfl hnextStruct) hnext

theorem pending_or_first_or_done (h : Frontier table start visited (visit :: pending))
    {slot position : Nat} {index : Int} (hslot : slot ∈ visited)
    (hrefers : table.Refers slot position index) :
    (∃ other ∈ pending, other.IsAt slot position) ∨ index = visit.index ∨
      ∀ next : Nat, index = next → table.IsStruct next → next ∈ visited := by
  rcases h.pending_or_done slot hslot position index hrefers with
    ⟨other, hother, rfl, rfl⟩ | hdone
  · rcases List.mem_cons.mp hother with rfl | hother
    · exact .inr (.inl (hrefers.index_unique (h.refers other List.mem_cons_self)))
    · exact .inl ⟨other, hother, rfl, rfl⟩
  · exact .inr (.inr hdone)

/-- A reference to no slot, to a named slot or to a slot entered before is passed over. -/
theorem pass (h : Frontier table start visited (visit :: pending))
    (hfresh : table.fresh? visited visit.index = none) :
    Frontier table start visited pending where
  start_mem := h.start_mem
  entered := fun other hother => h.entered other (List.mem_cons_of_mem visit hother)
  refers := fun other hother => h.refers other (List.mem_cons_of_mem visit hother)
  sorted := (List.pairwise_cons.mp h.sorted).2
  pending_or_done := by
    intro slot hslot position index hrefers
    rcases h.pending_or_first_or_done hslot hrefers with hpending | hindex | hdone
    · exact .inl hpending
    · right
      rintro next rfl hstruct
      rw [← hindex] at hfresh
      exact mem_visited_of_fresh?_eq_none hfresh hstruct
    · exact .inr hdone

theorem entered_next (h : Frontier table start visited (visit :: pending)) {slot : Nat}
    (hindex : visit.index = slot) (hstruct : table.IsStruct slot) (hfresh : slot ∉ visited) :
    Entered table start (slot :: visited) slot visit.place := by
  have hentered := h.entered visit List.mem_cons_self
  have hrefers := h.refers visit List.mem_cons_self
  rw [hindex] at hrefers
  obtain ⟨slots, hroute, hsub⟩ := hentered.within
  obtain ⟨slots', hroute', hnodup⟩ := hentered.least.1
  obtain ⟨rfl, -⟩ := hroute.eq_of_path hroute'
  have hnext : Route table start visit.place (slots ++ [slot]) slot := hroute.snoc hrefers
  have hnodupNext : (slots ++ [slot]).Nodup := by
    rw [List.nodup_append]
    refine ⟨hnodup, by simp, ?_⟩
    intro other hother same hsame heq
    rw [List.mem_singleton] at hsame
    subst hsame heq
    exact hfresh (hsub hother)
  have hsubNext : slots ++ [slot] ⊆ slot :: visited := by
    intro other hother
    rcases List.mem_append.mp hother with hother | hother
    · exact List.mem_cons_of_mem slot (hsub hother)
    · rw [List.mem_singleton] at hother
      exact hother ▸ List.mem_cons_self
  refine ⟨⟨⟨slots ++ [slot], hnext, hnodupNext⟩, ?_⟩, slots ++ [slot], hnext, hsubNext⟩
  exact fun path hpath => h.place_le_path hstruct hfresh hpath

/-- A structural slot is entered on the path of its first reference. -/
theorem enter (h : Frontier table start visited (visit :: pending)) {refs : List Int}
    (hfresh : table.fresh? visited visit.index = some refs) :
    Frontier table start (visit.index.toNat :: visited)
      (visitsAt visit.place visit.index.toNat refs ++ pending) := by
  obtain ⟨slot, hindex, hslot, hnot⟩ := fresh?_eq_some_iff.mp hfresh
  have htoNat : visit.index.toNat = slot := by rw [hindex, Int.toNat_natCast]
  have hnext := h.entered_next hindex ⟨refs, hslot⟩ hnot
  rw [htoNat]
  constructor
  case start_mem => exact List.mem_cons_of_mem slot h.start_mem
  case entered =>
      intro other hother
      rcases List.mem_append.mp hother with hother | hother
      · obtain ⟨hpath, hother, -⟩ := mem_visitsAt.mp hother
        rw [hpath, hother]
        exact hnext
      · exact (h.entered other (List.mem_cons_of_mem visit hother)).mono slot
  case refers =>
      intro other hother
      rcases List.mem_append.mp hother with hother | hother
      · obtain ⟨-, hother, href⟩ := mem_visitsAt.mp hother
        rw [hother]
        exact ⟨refs, hslot, href⟩
      · exact h.refers other (List.mem_cons_of_mem visit hother)
  case sorted =>
      obtain ⟨hforks, hsorted⟩ := List.pairwise_cons.mp h.sorted
      refine List.pairwise_append.mpr ⟨pairwise_visitsAt _ _ _, hsorted, ?_⟩
      intro child hchild other hother
      rw [place_of_mem_visitsAt hchild]
      simpa using (hforks other hother).append [child.position] []
  case pending_or_done =>
      intro slot' hslot' position index hrefers
      rcases List.mem_cons.mp hslot' with rfl | hslot'
      · exact .inl ⟨_, List.mem_append_left _ (mem_visitsAt_of_refers hslot hrefers), rfl, rfl⟩
      · rcases h.pending_or_first_or_done hslot' hrefers with
          ⟨other, hother, hplace⟩ | hfirst | hdone
        · exact .inl ⟨other, List.mem_append_right _ hother, hplace⟩
        · right
          rintro next rfl -
          rw [hindex, Int.ofNat_inj] at hfirst
          exact hfirst ▸ List.mem_cons_self
        · right
          intro next hnext' hstruct
          exact List.mem_cons_of_mem slot (hdone next hnext' hstruct)

theorem mem_of_reachable (h : Frontier table start visited []) {slot : Nat}
    (hreach : table.Reachable start slot) (hstruct : table.IsStruct slot) : slot ∈ visited := by
  induction hreach with
  | refl => exact h.start_mem
  | tail _ hleads ih =>
      obtain ⟨position, hrefers⟩ := hleads
      rcases h.pending_or_done _ (ih hrefers.isStruct) _ _ hrefers with
        ⟨_, hother, -⟩ | hdone
      · cases hother
      · exact hdone _ rfl hstruct

end Frontier

/-! Whole expansions -/

theorem exists_prefix_of_mem_visits {other : Visit} (h : other ∈ table.visits visited pending) :
    ∃ first ∈ pending, first.place <+: other.place := by
  fun_induction visits table visited pending with
  | case1 => cases h
  | case2 visited visit pending hfresh ih =>
      rcases List.mem_cons.mp h with rfl | h
      · exact ⟨other, List.mem_cons_self, List.prefix_rfl⟩
      · obtain ⟨first, hfirst, hpre⟩ := ih h
        exact ⟨first, List.mem_cons_of_mem visit hfirst, hpre⟩
  | case3 visited visit pending refs hfresh _ ih =>
      rcases List.mem_cons.mp h with rfl | h
      · exact ⟨other, List.mem_cons_self, List.prefix_rfl⟩
      · obtain ⟨first, hfirst, hpre⟩ := ih h
        rcases List.mem_append.mp hfirst with hchild | hfirst
        · refine ⟨visit, List.mem_cons_self, List.IsPrefix.trans ?_ hpre⟩
          rw [place_of_mem_visitsAt hchild]
          exact List.prefix_append _ _
        · exact ⟨first, List.mem_cons_of_mem visit hfirst, hpre⟩

namespace Frontier

theorem place_lt_of_mem_visits (h : Frontier table start visited (visit :: pending))
    {visited' : List Nat} {next : List Visit}
    (hnext : ∀ first ∈ next, first ∈ pending ∨
      ∃ position, first.place = visit.place ++ [position]) {other : Visit}
    (hother : other ∈ table.visits visited' next) : visit.place < other.place := by
  obtain ⟨first, hfirst, rest, hrest⟩ := exists_prefix_of_mem_visits hother
  rw [← hrest]
  rcases hnext first hfirst with hpending | ⟨position, hplace⟩
  · have hforks := (List.pairwise_cons.mp h.sorted).1 first hpending
    simpa using (hforks.append [] rest).lt
  · rw [hplace, List.append_assoc]
    exact lt_of_le_of_ne (le_of_isPrefix (List.prefix_append _ _)) (by simp)

/-- References are met in the order of their places. -/
theorem pairwise_visits (h : Frontier table start visited pending) :
    (table.visits visited pending).Pairwise fun x y => x.place < y.place := by
  fun_induction visits table visited pending with
  | case1 => exact .nil
  | case2 visited visit pending hfresh ih =>
      refine List.pairwise_cons.mpr ⟨?_, ih (h.pass hfresh)⟩
      intro other hother
      exact h.place_lt_of_mem_visits (fun first hfirst => .inl hfirst) hother
  | case3 visited visit pending refs hfresh _ ih =>
      refine List.pairwise_cons.mpr ⟨?_, ih (h.enter hfresh)⟩
      intro other hother
      refine h.place_lt_of_mem_visits (fun first hfirst => ?_) hother
      rcases List.mem_append.mp hfirst with hchild | hfirst
      · exact .inr ⟨first.position, place_of_mem_visitsAt hchild⟩
      · exact .inl hfirst

/-- A reference is met on the least path to its slot. -/
theorem least_of_mem_visits (h : Frontier table start visited pending) {other : Visit}
    (hother : other ∈ table.visits visited pending) :
    IsLeast (table.simplePaths start other.slot) other.path ∧
      table.Refers other.slot other.position other.index := by
  fun_induction visits table visited pending with
  | case1 => cases hother
  | case2 visited visit pending hfresh ih =>
      rcases List.mem_cons.mp hother with rfl | hother
      · exact ⟨(h.entered other List.mem_cons_self).least, h.refers other List.mem_cons_self⟩
      · exact ih (h.pass hfresh) hother
  | case3 visited visit pending refs hfresh _ ih =>
      rcases List.mem_cons.mp hother with rfl | hother
      · exact ⟨(h.entered other List.mem_cons_self).least, h.refers other List.mem_cons_self⟩
      · exact ih (h.enter hfresh) hother

/-- Every reference at a slot that references lead to is met, unless it was met before. -/
theorem mem_visits_or_met (h : Frontier table start visited pending) {slot position : Nat}
    {index : Int} (hreach : table.Reachable start slot)
    (hrefers : table.Refers slot position index) :
    (∃ other ∈ table.visits visited pending, other.IsAt slot position) ∨
      (slot ∈ visited ∧ ∀ other ∈ pending, ¬ other.IsAt slot position) := by
  fun_induction visits table visited pending with
  | case1 => exact .inr ⟨h.mem_of_reachable hreach hrefers.isStruct, by simp⟩
  | case2 visited visit pending hfresh ih =>
      rcases ih (h.pass hfresh) with ⟨other, hother, hplace⟩ | ⟨hslot, hmet⟩
      · exact .inl ⟨other, List.mem_cons_of_mem visit hother, hplace⟩
      · by_cases hhere : visit.IsAt slot position
        · exact .inl ⟨visit, List.mem_cons_self, hhere⟩
        · exact .inr ⟨hslot, List.forall_mem_cons.mpr ⟨hhere, hmet⟩⟩
  | case3 visited visit pending refs hfresh _ ih =>
      have hnext := h.enter hfresh
      rcases ih hnext with ⟨other, hother, hplace⟩ | ⟨hslot, hmet⟩
      · exact .inl ⟨other, List.mem_cons_of_mem visit hother, hplace⟩
      · obtain ⟨hchildren, hpending⟩ := List.forall_mem_append.mp hmet
        by_cases hhere : visit.IsAt slot position
        · exact .inl ⟨visit, List.mem_cons_self, hhere⟩
        · refine .inr ⟨?_, List.forall_mem_cons.mpr ⟨hhere, hpending⟩⟩
          -- All references of the slot entered last are pending, so this is an older one.
          rcases List.mem_cons.mp hslot with rfl | hslot
          · obtain ⟨entered, hindex, hget, -⟩ := fresh?_eq_some_iff.mp hfresh
            rw [hindex, Int.toNat_natCast] at hrefers hchildren
            exact absurd ⟨rfl, rfl⟩ (hchildren _ (mem_visitsAt_of_refers hget hrefers))
          · exact hslot

end Frontier

end DeclGraph.TypeTable
