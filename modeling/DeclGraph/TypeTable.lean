import DeclGraph.Symbol

/-!
A module's type table. Types are dumped once each, and refer to each other by their slot.
-/

namespace DeclGraph

/-- A slot holds a named type, or a type built from those in other slots, in order. -/
inductive TypeTerm where
  | var (name : Name)
  | struct (refs : List Int)
deriving DecidableEq, Repr

abbrev TypeTable := Array TypeTerm

/-- An index that is no slot of its table. -/
structure BadIndex where
  index : Int
  size : Nat
deriving DecidableEq, Repr

/-- The element at an index. Dumped indices are not trusted: they may be negative or too large. -/
def atIndex {α : Type} (slots : Array α) (index : Int) : Except BadIndex α :=
  match index with
  | .ofNat i =>
    match slots[i]? with
    | some a => .ok a
    | none => .error ⟨index, slots.size⟩
  | .negSucc _ => .error ⟨index, slots.size⟩

theorem lt_size_of_atIndex {α : Type} {slots : Array α} {index : Int} {a : α}
    (h : atIndex slots index = .ok a) : 0 ≤ index ∧ index.toNat < slots.size := by
  cases index with
  | ofNat i =>
    refine ⟨Int.natCast_nonneg i, ?_⟩
    by_cases hi : i < slots.size
    · exact hi
    · simp [atIndex, hi] at h
  | negSucc i => simp [atIndex] at h

end DeclGraph
