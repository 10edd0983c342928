import DeclGraph.Config.Checked
import DeclGraph.Proofs.Datum.Entries

/-!
Places in a document: what stands at a location, and the document with another value there.
-/

namespace DeclGraph

namespace Entries

variable {entries : Entries} {name other : String} {f : Datum → Datum}

/-- The entries with the value of one key changed. -/
def adjust (entries : Entries) (key : Scalar) (f : Datum → Datum) : Entries :=
  List.map (fun entry => if entry.1.sameKey key then (entry.1, f entry.2) else entry) entries

theorem fst_adjust (key : Scalar) (entry : Scalar × Datum) :
    (if entry.1.sameKey key then (entry.1, f entry.2) else entry).1 = entry.1 := by
  split <;> rfl

theorem get?_adjust : (entries.adjust (.str name) f).get? (.str other) =
    if other = name then (entries.get? (.str other)).map f else entries.get? (.str other) := by
  induction entries with
  | nil => split <;> rfl
  | cons entry entries ih =>
      rw [adjust, List.map_cons, get?_cons, get?_cons, fst_adjust, ← adjust, ih]
      by_cases hentry : entry.1 = .str other
      · by_cases hname : other = name
        · simp [hentry, hname]
        · simp [hentry, hname]
      · simp [hentry]

theorem filter_adjust {keeps : Scalar → Bool} {key : Scalar}
    (h : ∀ other : Scalar, other.sameKey key → keeps other = false) :
    List.filter (fun entry => keeps entry.1) (entries.adjust key f) =
      List.filter (fun entry => keeps entry.1) entries := by
  induction entries with
  | nil => rfl
  | cons entry entries ih =>
      rw [adjust, List.map_cons, ← adjust, List.filter_cons, List.filter_cons, fst_adjust, ih]
      by_cases hkey : entry.1.sameKey key
      · simp [h entry.1 hkey]
      · simp [hkey]

end Entries

namespace Datum

variable {step other : Step} {f : Datum → Datum}

/-- The part of a document that a step leads to. -/
def part? (d : Datum) : Step → Option Datum
  | .key name => d.entries?.bind fun entries => Entries.get? entries (.str name)
  | .index i => d.items?.bind fun items => items[i]?

/-- What stands at a location. -/
def at? (d : Datum) : Location → Option Datum
  | [] => some d
  | step :: location => (d.part? step).bind fun part => part.at? location

/-- The document with one part changed. -/
def change (d : Datum) (step : Step) (f : Datum → Datum) : Datum :=
  match step, d.untie with
  | .key name, .map entries => .map (Entries.adjust entries (.str name) f)
  | .index i, .sequence form items => .sequence form (items.modify i f)
  | _, _ => d

/-- The document with another value at a location. -/
def put : Datum → Location → Datum → Datum
  | _, [], new => new
  | d, step :: location, new => d.change step fun part => part.put location new

@[simp] theorem at?_nil (d : Datum) : d.at? [] = some d := rfl

theorem at?_cons (d : Datum) (step : Step) (location : Location) :
    d.at? (step :: location) = (d.part? step).bind fun part => part.at? location := rfl

theorem at?_singleton (d : Datum) (step : Step) : d.at? [step] = d.part? step := by
  rw [at?_cons]
  cases d.part? step <;> rfl

@[simp] theorem part?_map_key (entries : Entries) (name : String) :
    (Datum.map entries).part? (.key name) = entries.get? (.str name) := rfl

theorem entries?_change_key (d : Datum) (name : String) :
    (d.change (.key name) f).entries? =
      d.entries?.map fun entries => Entries.adjust entries (.str name) f := by
  unfold change
  cases h : d.untie <;> simp only [entries?, h] <;> rfl

theorem items?_change_index (d : Datum) (i : Nat) :
    (d.change (.index i) f).items? = d.items?.map fun items => items.modify i f := by
  unfold change
  cases h : d.untie <;> simp only [items?, h] <;> rfl

theorem items?_change_key (d : Datum) (name : String) :
    (d.change (.key name) f).items? = d.items? := by
  unfold change
  cases h : d.untie <;> simp only [items?, h]
  rfl

theorem entries?_change_index (d : Datum) (i : Nat) :
    (d.change (.index i) f).entries? = d.entries? := by
  unfold change
  cases h : d.untie <;> simp only [entries?, h]
  rfl

/-- A change of one part is not seen from another. -/
theorem part?_change (d : Datum) : (d.change step f).part? other =
    if other = step then (d.part? other).map f else d.part? other := by
  cases step with
  | key name =>
      cases other with
      | key otherName =>
          rw [part?, part?, entries?_change_key]
          cases d.entries? <;> simp [Entries.get?_adjust]
      | index i => rw [part?, part?, items?_change_key, if_neg nofun]
  | index i =>
      cases other with
      | key otherName => rw [part?, part?, entries?_change_index, if_neg nofun]
      | index j =>
          rw [part?, part?, items?_change_index]
          by_cases hji : j = i
          · cases d.items? <;> simp [hji]
          · cases d.items? <;> simp [hji, Ne.symm hji]

end Datum

end DeclGraph
