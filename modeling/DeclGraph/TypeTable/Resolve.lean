import DeclGraph.TypeTable

/-!
Resolution of a type table: every slot becomes the list of symbols that its type mentions.

A slot is expanded depth first. A structural slot that the same expansion has already entered
contributes nothing the second time, which cuts cycles and keeps shared parts from multiplying. A
named slot is never remembered, so a name that is mentioned twice is listed twice.
-/

namespace DeclGraph.TypeTable

/-- The number of slots that an expansion has not entered yet. -/
def unvisited (table : TypeTable) (visited : List Nat) : Nat :=
  (List.range table.size).countP (· ∉ visited)

theorem unvisited_cons_lt {table : TypeTable} {visited : List Nat} {i : Nat}
    (hi : i < table.size) (hv : i ∉ visited) :
    table.unvisited (i :: visited) < table.unvisited visited := by
  unfold unvisited
  have hmem : i ∈ List.range table.size := List.mem_range.mpr hi
  generalize List.range table.size = slots at hmem
  have mono : ∀ l : List Nat,
      l.countP (· ∉ i :: visited) ≤ l.countP (· ∉ visited) := fun l =>
    List.countP_mono_left fun j _ h => by simp_all
  induction slots with
  | nil => cases hmem
  | cons j slots ih =>
    rcases List.mem_cons.mp hmem with rfl | h
    · have := mono slots
      simp [hv]
      simpa using Nat.lt_succ_of_le this
    · have := ih h
      by_cases hj : j ∈ visited
      · simpa [hj] using this
      · by_cases hji : j = i
        · subst hji
          have := mono slots
          simp [hj]
          simpa using Nat.lt_succ_of_le this
        · simpa [hj, hji] using this

/-- Expands the pending indices in order, with the slots entered so far. The references of a slot
are taken before whatever was pending after it. -/
def expand (table : TypeTable) (visited : List Nat) :
    (pending : List Int) → Except BadIndex (List SymbolKey)
  | [] => .ok []
  | index :: pending =>
    match h : atIndex table index with
    | .error e => .error e
    | .ok (.var name) => (name.key :: ·) <$> expand table visited pending
    | .ok (.struct refs) =>
      if hv : index.toNat ∈ visited then
        expand table visited pending
      else
        have := unvisited_cons_lt (lt_size_of_atIndex h).2 hv
        expand table (index.toNat :: visited) (refs ++ pending)
termination_by pending => (table.unvisited visited, pending.length)

/-- The symbols of one slot, in an expansion of its own. -/
def resolveSlot (table : TypeTable) (slot : Nat) : Except BadIndex (List SymbolKey) :=
  expand table [] [(slot : Int)]

/-- The symbols of every slot. The slots are taken in order, so the first slot that leads to a bad
index decides which one is reported. -/
def resolve (table : TypeTable) : Except BadIndex (Array (List SymbolKey)) :=
  List.toArray <$> (List.range table.size).mapM table.resolveSlot

end DeclGraph.TypeTable
