/-!
Symbols: the identities that a compiler gives to named entities, and the names that carry them.
-/

namespace DeclGraph

/-- Identity of a named entity. It is read from a dump and never made up here. -/
structure SymbolKey where
  unique : Int
deriving DecidableEq, Repr, Inhabited, Hashable

namespace SymbolKey

instance : Ord SymbolKey := ⟨fun a b => compare a.unique b.unique⟩

instance : LT SymbolKey := ⟨fun a b => a.unique < b.unique⟩

instance : LE SymbolKey := ⟨fun a b => a.unique ≤ b.unique⟩

instance (a b : SymbolKey) : Decidable (a < b) := inferInstanceAs (Decidable (a.unique < b.unique))

instance (a b : SymbolKey) : Decidable (a ≤ b) := inferInstanceAs (Decidable (a.unique ≤ b.unique))

/-- Keys are shown with a leading number sign. -/
def text (key : SymbolKey) : String := "#" ++ toString key.unique

/-- A list of keys is separated by commas; an empty one is shown as a dash, so that it stays
visible at the end of a line. -/
def listText (keys : List SymbolKey) : String :=
  if keys.isEmpty then "-" else ", ".intercalate (keys.map text)

/-- Keys in ascending order. -/
def sort (keys : List SymbolKey) : List SymbolKey := keys.mergeSort (fun a b => decide (a ≤ b))

/-- The largest of the keys, if there are any. -/
def max? : List SymbolKey → Option SymbolKey
  | [] => none
  | key :: keys => some (keys.foldl (fun best k => if best < k then k else best) key)

end SymbolKey

/-- An entity's key together with the name it is written with. -/
structure Name where
  key : SymbolKey
  occ : String
deriving DecidableEq, Repr, Inhabited

end DeclGraph
